import CrudScaffold.Failure
import CrudScaffold.Data.Json.Read
import CrudScaffold.Data.Yaml.Read
import CrudScaffold.Text.Quoted
import CrudScaffold.Text.Surrogate

/-!
# Settings files

Settings may come from a file. A file whose name ends in `.json`, in any case, is JSON; any
other file is YAML. Line breaks are made uniform before reading. An empty file, or one that
holds only null, gives the default settings; a file must otherwise hold a mapping, and a
mapping under a top-level `ctrlgen` key is taken in place of the whole, so that the
settings can share a file with other tools.

Paths in messages are shown in their normal form: repeated slashes and `.` components
dropped, no trailing slash, and `.` for the empty path.

A missing file is looked for in a working directory that holds nothing. The system refuses
to look a path up when it has 4096 bytes or more, or when the first component it would
have to find there, past any `..`, has more than 255 bytes; this is an error of its own,
not a missing file. A path that cannot be encoded, because it holds a surrogate that stands
for no byte, or that holds a null byte, is never looked up: it is only missing.
-/

namespace CrudScaffold.Config

open CrudScaffold.Data

/-- A path in normal form: repeated slashes and `.` components are dropped, and so is a
trailing slash; a path that starts with exactly two slashes keeps them, and the empty path
is `.`. -/
def normalPath (p : String) : String :=
  let root :=
    if p.startsWith "//" && !p.startsWith "///" then "//"
    else if p.startsWith "/" then "/" else ""
  let parts := (p.splitOn "/").filter fun part => part != "" && part != "."
  let shown := root ++ "/".intercalate parts
  if shown.isEmpty then "." else shown

/-- The suffix of the last component of a path: from its last dot on, when that dot is
neither the component's first nor its last character; else empty. -/
def pathSuffix (p : String) : String :=
  let name := ((normalPath p).splitOn "/").getLast?.getD ""
  let cs := name.toList
  match (List.range cs.length).reverse.find? (fun i => cs[i]? == some '.') with
  | some i => if 0 < i && i + 1 < cs.length then String.ofList (cs.drop i) else ""
  | none => ""

/-- A text with uniform line breaks: a carriage return and line feed, or a lone carriage
return, becomes a line feed. -/
def uniformBreaks (s : String) : String :=
  String.ofList (go s.toList)
where
  go : List Char → List Char
    | '\r' :: '\n' :: rest => '\n' :: go rest
    | '\r' :: rest => '\n' :: go rest
    | c :: rest => c :: go rest
    | [] => []

/-- The bytes a path character becomes: a surrogate from U+DC80 to U+DCFF stands for one
byte, another surrogate for none (the path cannot be encoded), anything else for its UTF-8
form. -/
def pathCharBytes (c : Char) : Option Nat :=
  match Text.carriedSurrogate? c with
  | some n => if 0xDC80 ≤ n && n < 0xDD00 then some 1 else none
  | none => some c.utf8Size

/-- The number of bytes of a path, or none when it cannot be encoded or holds a null
byte. -/
def pathBytes (p : String) : Option Nat :=
  if p.contains (Char.ofNat 0) then none
  else p.toList.foldlM (fun n c => (pathCharBytes c).map (n + ·)) 0

/-- The longest name a path component may have, in bytes. -/
def maxNameBytes : Nat := 255

/-- The fewest bytes of a path that is refused whole. -/
def maxPathBytes : Nat := 4096

/-- Whether looking up path `p` in an empty working directory fails for its length (see
the module doc). -/
def nameTooLong (p : String) : Bool :=
  match pathBytes p with
  | none => false
  | some total =>
    let parts := ((p.splitOn "/").filter (· != "")).dropWhile (· == "..")
    total ≥ maxPathBytes || parts.head?.any fun part => (pathBytes part).any (· > maxNameBytes)

/-- The format of a settings file, read off its name. -/
def formatOfPath (p : String) : FileFormat :=
  if (pathSuffix p).toLower == ".json" then .json else .yaml

/-- Reads the text of a settings file in its format, a YAML one by `yaml`. -/
def parseSettingsText (yaml : String → Except Yaml.Fault Value) (path : String) (text : String) :
    Except Failure Value :=
  let shown := normalPath path
  match formatOfPath path with
  | .json =>
    match Json.parse text with
    | .ok v => .ok v
    | .error .malformed => .error (.config (.unparsable shown .json))
    | .error (.tooManyDigits n) => .error (.valueError (tooManyDigitsMessage n))
    | .error (.tooDeep array) =>
      .error (.recursionError ("maximum recursion depth exceeded while decoding a JSON " ++
        (if array then "array" else "object") ++ " from a unicode string"))
  | .yaml =>
    match yaml text with
    | .ok v => .ok v
    | .error .malformed => .error (.config (.unparsable shown .yaml))
    | .error (.badValue m) => .error (.valueError m)
    | .error (.overflow m) => .error (.overflowError m)
    | .error .tooDeep => .error (.recursionError "maximum recursion depth exceeded")
    | .error (.badKey m) => .error (.keyError m)
    | .error (.badIndex m) => .error (.indexError m)
    | .error .noStampFields =>
      .error (.attributeError "\x27NoneType\x27 object has no attribute \x27groupdict\x27")

/-- The mapping of settings that a file's value holds: null is the empty mapping, any
other value that is no mapping is refused, and a mapping under `ctrlgen` is unwrapped. -/
def settingsMapping (path : String) (v : Value) : Except Failure Value :=
  match v with
  | .null => .ok (.dict [])
  | .dict entries =>
    match Value.lookupText entries "ctrlgen" with
    | some (.dict inner) => .ok (.dict inner)
    | _ => .ok (.dict entries)
  | other => .error (.config (.notMapping (normalPath path) other.kindName))

/-- The settings of the file at `path`, whose content is `content`, or none when there is
no such file; YAML is read by `yaml` and the settings are checked under the readings `co`. -/
def Settings.load (co : Coercion) (yaml : String → Except Yaml.Fault Value) (path : String)
    (content : Option String) : Except Failure Settings := do
  let shown := normalPath path
  let some text := content
    | if nameTooLong shown then
        throw (.osError ("[Errno 36] File name too long: " ++ Text.quoted shown))
      else throw (.config (.notFound shown))
  let v ← parseSettingsText yaml path (uniformBreaks text)
  let m ← settingsMapping path v
  match Settings.check co m with
  | .ok s => return s
  | .error issues => throw (.config (.invalid issues))

/-- The settings of the file at `path` as the program loads them. -/
def Settings.ofFile (path : String) (content : Option String) : Except Failure Settings :=
  Settings.load .lax Yaml.parse? path content

end CrudScaffold.Config
