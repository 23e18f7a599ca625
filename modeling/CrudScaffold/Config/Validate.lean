import CrudScaffold.Config.Basic
import CrudScaffold.Config.Coerce
import CrudScaffold.Data.Decimal.Shortest
import CrudScaffold.Text.Blank
import CrudScaffold.Text.Surrogate
import CrudScaffold.Text.Split

/-!
# Checking settings

A mapping read from a file or given by a caller is checked against the settings. Every
setting is looked up by its alias first and then by its name; a missing setting takes its
default. A value of the wrong kind is converted where the conversion is unambiguous: a text
of digits or an integral number for the indent size, `yes`/`off`/`0`/`1` and the like for a
flag. All problems are collected, in the order of the settings and then of the keys that no
setting used, each with the path of keys that leads to it.

How a value of the wrong kind is read as a mapping, a text, a flag or an integer is the
validation library's: the checks take it as a parameter (`Coercion`), and the program runs
them with the library's lax readings (`Coercion.lax`).

Four settings are dotted paths and must have no empty segment; a non-empty template
extension gets a leading dot; the indent size lies between 2 and 8.
-/

namespace CrudScaffold.Config

open CrudScaffold.Data CrudScaffold.Text

/-- One step of the path to a problem: a key, or a key that is a number. -/
inductive LocPart where
  | key (s : String)
  | index (n : Int)
  deriving DecidableEq, Repr

/-- Why a value was refused. -/
inductive IssueKind where
  | stringType
  | stringUnicode
  | boolType
  | boolParsing
  | intType
  | intParsing
  | intParsingSize
  | intFromFloat
  | finiteNumber
  | greaterThanEqual (bound : Nat)
  | lessThanEqual (bound : Nat)
  | modelType (className : String)
  | extraForbidden
  | invalidKey
  | notDottedPath (path : String)
  deriving DecidableEq, Repr

namespace IssueKind

/-- The short code of a problem. -/
def code : IssueKind → String
  | stringType => "string_type"
  | stringUnicode => "string_unicode"
  | boolType => "bool_type"
  | boolParsing => "bool_parsing"
  | intType => "int_type"
  | intParsing => "int_parsing"
  | intParsingSize => "int_parsing_size"
  | intFromFloat => "int_from_float"
  | finiteNumber => "finite_number"
  | greaterThanEqual _ => "greater_than_equal"
  | lessThanEqual _ => "less_than_equal"
  | modelType _ => "model_type"
  | extraForbidden => "extra_forbidden"
  | invalidKey => "invalid_key"
  | notDottedPath _ => "value_error"

/-- The message of a problem. A value quoted in a message has its carried surrogates
replaced, as messages are texts of valid UTF-8. -/
def message : IssueKind → String
  | stringType => "Input should be a valid string"
  | stringUnicode => "Input should be a valid string, unable to parse raw data as a unicode string"
  | boolType => "Input should be a valid boolean"
  | boolParsing => "Input should be a valid boolean, unable to interpret input"
  | intType => "Input should be a valid integer"
  | intParsing => "Input should be a valid integer, unable to parse string as an integer"
  | intParsingSize => "Unable to parse input string as an integer, exceeded maximum size"
  | intFromFloat => "Input should be a valid integer, got a number with a fractional part"
  | finiteNumber => "Input should be a finite number"
  | greaterThanEqual b => "Input should be greater than or equal to " ++ toString b
  | lessThanEqual b => "Input should be less than or equal to " ++ toString b
  | modelType c => "Input should be a valid dictionary or instance of " ++ c
  | extraForbidden => "Extra inputs are not permitted"
  | invalidKey => "Keys should be strings"
  | notDottedPath p => "Value error, '" ++ utf8Lossy p ++ "' is not a valid dotted path."

end IssueKind

/-- A refused value: the path of keys to it and why. -/
structure Issue where
  loc : List LocPart
  kind : IssueKind
  deriving DecidableEq, Repr

/-! ## Single values -/

/-- The text that a byte string encodes in UTF-8, if it is valid UTF-8. -/
def utf8Text? (data : List UInt8) : Option String := String.fromUTF8? (ByteArray.mk data.toArray)

/-- A text, or a byte string of valid UTF-8. -/
def checkText : Value → Except IssueKind String
  | .str s => .ok s
  | .bytes b => match utf8Text? b with
    | some s => .ok s
    | none => .error .stringUnicode
  | _ => .error .stringType

/-- Whether a text is empty or dot-separated non-empty segments. -/
def isDottedPath (s : String) : Bool :=
  s.isEmpty || (splitWhen (· == '.') s.toList).all (!·.isEmpty)

/-- A flag: a boolean, the numbers 0 and 1, or a text or a byte string of UTF-8 that spells
one; a text with a carried surrogate has no UTF-8 form. Another integer of 64 bits, or a
double that reads as one, spells no flag; any other value is no flag at all. -/
def checkFlag : Value → Except IssueKind Bool
  | .bool b => .ok b
  | .str s =>
    if hasSurrogate s then .error .stringUnicode
    else match flagOfText? s with
      | some b => .ok b
      | none => .error .boolParsing
  | .bytes d => match (utf8Text? d).bind flagOfText? with
    | some b => .ok b
    | none => .error .boolParsing
  | .int n => flagOfWord n
  | .float x => match wholeOfDouble x with
    | .whole n => flagOfWord n
    | _ => .error .boolType
  | _ => .error .boolType
where
  -- The flag an integer spells.
  flagOfWord (n : Int) : Except IssueKind Bool :=
    if n = 0 then .ok false
    else if n = 1 then .ok true
    else if fitsWord n then .error .boolParsing
    else .error .boolType

/-- The integer a text spells, read leniently. -/
def checkIntText (s : String) : Except IssueKind Int :=
  match intOfText s with
  | .ok n => .ok n
  | .error .tooLong => .error .intParsingSize
  | .error .malformed => .error .intParsing

/-- An integer: an integer or a boolean as is, a double that reads as one, or a text (or a
byte string of UTF-8) that spells one. -/
def checkInt : Value → Except IssueKind Int
  | .int n => .ok n
  | .bool b => .ok (if b then 1 else 0)
  | .str s => if hasSurrogate s then .error .stringUnicode else checkIntText s
  | .bytes d => match utf8Text? d with
    | some s => checkIntText s
    | none => .error .intParsing
  | .float x =>
    match wholeOfDouble x with
    | .notFinite => .error .finiteNumber
    | .fractional => .error .intFromFloat
    | .outOfRange => .error .intParsingSize
    | .whole n => .ok n
  | _ => .error .intType

/-- Whether a key is a text that carries a surrogate, and so has no UTF-8 form. -/
def isUnencodableKey : Value → Bool
  | .str s => hasSurrogate s
  | _ => false

/-- The entries of a mapping of section `className`. A mapping with a text key that has no
UTF-8 form is refused as a whole. -/
def checkMapping (className : String) : Value → Except IssueKind (List (Value × Value))
  | .dict entries =>
    if entries.any (isUnencodableKey ·.1) then .error .stringUnicode else .ok entries
  | _ => .error (.modelType className)

/-! ## Readings of values -/

/-- How a value is read as a mapping of a section, a text, a flag or an integer. -/
structure Coercion where
  mapping : String → Value → Except IssueKind (List (Value × Value))
  text : Value → Except IssueKind String
  flag : Value → Except IssueKind Bool
  int : Value → Except IssueKind Int

/-- The lax readings the program checks settings with. -/
def Coercion.lax : Coercion := ⟨checkMapping, checkText, checkFlag, checkInt⟩

/-- What checking settings asks of the readings: a value of the kind asked for is taken as it
is, and so is a mapping whose keys all have a UTF-8 form. -/
structure Coercion.Lawful (co : Coercion) : Prop where
  mapping_dict (className : String) (entries : List (Value × Value))
    (h : entries.all (!isUnencodableKey ·.1)) : co.mapping className (.dict entries) = .ok entries
  text_str (s : String) : co.text (.str s) = .ok s
  flag_bool (b : Bool) : co.flag (.bool b) = .ok b
  int_int (n : Int) : co.int (.int n) = .ok n

section Checks

variable (co : Coercion)

/-- A text that is a dotted path. -/
def checkDottedPath (v : Value) : Except IssueKind String := do
  let s ← co.text v
  if isDottedPath s then pure s else throw (.notDottedPath s)

/-- A template extension; a non-empty one gets a leading dot. -/
def checkExtension (v : Value) : Except IssueKind String := do
  let s ← co.text v
  pure (match s.toList with
    | [] | '.' :: _ => s
    | _ => "." ++ s)

/-- An indent size: an integer from 2 to 8. -/
def checkIndentSize (v : Value) : Except IssueKind Nat := do
  let n ← co.int v
  if n > 8 then throw (.lessThanEqual 8)
  if n < 2 then throw (.greaterThanEqual 2)
  pure n.toNat

end Checks

/-! ## Mappings -/

/-- What checking a mapping has gathered: the problems so far, and the keys that settings
used. -/
structure ReadState where
  issues : List Issue := []
  used : List String := []

/-- Checking a mapping, gathering problems as it goes. -/
abbrev Reading := StateM ReadState

/-- Records a problem. -/
def report (loc : List LocPart) (kind : IssueKind) : Reading Unit :=
  modify fun s => { s with issues := s.issues ++ [⟨loc, kind⟩] }

/-- Records that a key was used by a setting. -/
def markUsed (k : String) : Reading Unit :=
  modify fun s => { s with used := k :: s.used }

/-- The key and value that spell a setting: its alias first, then its name. -/
def findField (entries : List (Value × Value)) (f : FieldName) : Option (String × Value) :=
  let byKey := fun k => (Value.lookupText entries k).map fun v => (k, v)
  match f.alias?.bind byKey with
  | some r => some r
  | none => byKey f.name

/-- Reads one setting by `check`, or its default when the mapping does not have it. -/
def readLeaf {α : Type} (entries : List (Value × Value)) (f : FieldName)
    (check : Value → Except IssueKind α) (default : α) : Reading α := do
  match findField entries f with
  | none => pure default
  | some (k, v) =>
    markUsed k
    match check v with
    | .ok a => pure a
    | .error kind => do report [.key k] kind; pure default

/-- A time-zone offset of `minutes` as error locations show it: UTC by name, any other
offset as a span of whole days and the seconds left over. -/
def offsetKeyText (minutes : Int) : String :=
  if minutes == 0 then "datetime.timezone.utc"
  else
    let total := 60 * minutes
    let days := total / 86400
    let seconds := total % 86400
    let parts := (if days != 0 then ["days=" ++ toString days] else []) ++
      (if seconds != 0 then ["seconds=" ++ toString seconds] else [])
    "datetime.timezone(datetime.timedelta(" ++ ", ".intercalate parts ++ "))"

/-- A date or a date and time as error locations show a key of that kind: the fields in
order, with a zero microsecond, and then a zero second, left out. -/
def stampKeyText (t : Stamp) : String :=
  match t.time with
  | none =>
    "datetime.date(" ++ ", ".intercalate ([t.year, t.month, t.day].map toString) ++ ")"
  | some (h, m, s, us) =>
    let fields := [t.year, t.month, t.day, h, m] ++
      (if s != 0 || us != 0 then [s] else []) ++ (if us != 0 then [us] else [])
    let zone := match t.offset with
      | some o => ", tzinfo=" ++ offsetKeyText o
      | none => ""
    "datetime.datetime(" ++ ", ".intercalate (fields.map toString) ++ zone ++ ")"

/-- Two lower-case hexadecimal digits of a byte. -/
def hexByte (b : UInt8) : String :=
  String.ofList [Nat.digitChar (b.toNat / 16), Nat.digitChar (b.toNat % 16)]

/-- A byte string as error locations show a key of that kind: `b` and the bytes between
quotes (double ones when a single quote and no double quote is among the bytes), printable
ASCII as is, the quote and the backslash escaped, tab, line feed and carriage return by
their letters, and any other byte in hexadecimal. -/
def bytesKeyText (data : List UInt8) : String :=
  let q : Char := if data.contains 39 && !data.contains 34 then '"' else '\x27'
  let shown (b : UInt8) : String :=
    let c := Char.ofNat b.toNat
    if c == q || c == '\\' then "\\" ++ c.toString
    else if c == '\t' then "\\t"
    else if c == '\n' then "\\n"
    else if c == '\r' then "\\r"
    else if b < 32 || b ≥ 127 then "\\x" ++ hexByte b
    else c.toString
  "b" ++ q.toString ++ String.join (data.map shown) ++ q.toString

/-- Where a key that is not a text is reported: an integer or a boolean as a number, any
other key as its text. -/
def keyLoc : Value → LocPart
  | .int n => if fitsWord n then .index n else .key (toString n)
  | .bool b => .index (if b then 1 else 0)
  | .null => .key "None"
  | .float x => .key (Float.shortText x)
  | .stamp t => .key (stampKeyText t)
  | .bytes b => .key (bytesKeyText b)
  | _ => .key ""

/-- Reports every key that is not a text, and every text key that no setting used. -/
def readExtras (entries : List (Value × Value)) : Reading Unit :=
  entries.forM fun (k, _) =>
    match k with
    | .str s => do
      if (← get).used.contains s then pure () else report [.key s] .extraForbidden
    | other => report [keyLoc other] .invalidKey

section Sections

variable (co : Coercion)

/-- Checks a mapping by `body`, then its unused keys. A value that is not read as a mapping
is refused as a whole: looking for the unused keys stops there, and the problems found
before are dropped. -/
def readSection {α : Type} (className : String) (v : Value)
    (body : List (Value × Value) → Reading α) (default : α) : List Issue × α :=
  match co.mapping className v with
  | .ok entries =>
    let (a, st) := (do let a ← body entries; readExtras entries; pure a).run {}
    (st.issues, a)
  | .error kind => ([⟨[], kind⟩], default)

/-- Reads one section of settings, or its default when the mapping does not have it. -/
def readSubsection {α : Type} (entries : List (Value × Value)) (f : FieldName)
    (className : String) (body : List (Value × Value) → Reading α) (default : α) :
    Reading α := do
  match findField entries f with
  | none => pure default
  | some (k, v) =>
    markUsed k
    let (issues, a) := readSection co className v body default
    issues.forM fun i => report (.key k :: i.loc) i.kind
    pure a

/-! ## The sections -/

/-- Reads the request section. -/
def RequestSettings.read (es : List (Value × Value)) : Reading RequestSettings := do
  let webNamespace ← readLeaf es namespaceField (checkDottedPath co) "app.http.requests"
  let apiNamespace ← readLeaf es apiNamespaceField (checkDottedPath co) "app.http.requests.api"
  let classSuffix ← readLeaf es classSuffixField co.text "Request"
  pure { webNamespace, apiNamespace, classSuffix }

/-- Reads the view section. -/
def ViewSettings.read (es : List (Value × Value)) : Reading ViewSettings := do
  let templates ← readLeaf es templatesField co.text "app.templating.templates"
  let extension ← readLeaf es extensionField (checkExtension co) ".html"
  pure { templates, extension }

/-- Reads the API section. -/
def ApiSettings.read (es : List (Value × Value)) : Reading ApiSettings := do
  let resourceNamespace ←
    readLeaf es resourceNamespaceField (checkDottedPath co) "app.http.resources"
  let resourceSuffix ← readLeaf es resourceSuffixField co.text "Resource"
  pure { resourceNamespace, resourceSuffix }

/-- Reads the controller section. -/
def ControllerSettings.read (es : List (Value × Value)) : Reading ControllerSettings := do
  let sessionDependency ← readLeaf es sessionDependencyField co.text "app.database.get_db"
  let docstrings ← readLeaf es docstringsField co.flag true
  let indentSize ← readLeaf es indentSizeField (checkIndentSize co) 4
  pure { sessionDependency, docstrings, indentSize }

/-- Reads all settings. -/
def Settings.read (es : List (Value × Value)) : Reading Settings := do
  let rootNamespace ← readLeaf es Settings.rootNamespaceField (checkDottedPath co) ""
  let request ← readSubsection co es Settings.requestField RequestSettings.className
    (RequestSettings.read co) {}
  let view ← readSubsection co es Settings.viewField ViewSettings.className
    (ViewSettings.read co) {}
  let api ← readSubsection co es Settings.apiField ApiSettings.className (ApiSettings.read co) {}
  let controller ← readSubsection co es Settings.controllerField ControllerSettings.className
    (ControllerSettings.read co) {}
  pure { rootNamespace, request, view, api, controller }

/-- The settings a value spells under the readings `co`, or every problem with it. -/
def Settings.check (v : Value) : Except (List Issue) Settings :=
  let (issues, s) := readSection co Settings.className v (Settings.read co) {}
  if issues.isEmpty then .ok s else .error issues

end Sections

/-- The settings a value spells, or every problem with it. -/
def Settings.ofValue (v : Value) : Except (List Issue) Settings := Settings.check .lax v

end CrudScaffold.Config
