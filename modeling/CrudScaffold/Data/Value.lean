import CrudScaffold.Data.Decimal

/-!
# Data values

The values that configuration files and fixture descriptions hold: null, booleans, integers
of any size, double-precision numbers, texts, byte strings, calendar dates and times, lists,
sets, and mappings.
A mapping keeps its entries in the order their keys first appeared, and its keys may be any
value a file can spell (YAML allows integer and boolean keys). Keys are compared as numbers
across the three numeric kinds, exactly, so `1`, `1.0` and `true` are one key but a double
is no integer's equal unless it is that integer. Two times with offsets are the same key when
they are the same moment; a time with an offset is never the same key as one without.
-/

namespace CrudScaffold.Data

/-- A date, and optionally a time of day with a time-zone offset in minutes. -/
structure Stamp where
  year : Nat
  month : Nat
  day : Nat
  time : Option (Nat × Nat × Nat × Nat) := none
  offset : Option Int := none
  deriving DecidableEq, Repr

/-- A value of a data file. -/
inductive Value where
  | null
  | bool (b : Bool)
  | int (n : Int)
  | float (x : Float)
  | str (s : String)
  | bytes (data : List UInt8)
  | stamp (t : Stamp)
  | list (items : List Value)
  | set (items : List Value)
  | dict (entries : List (Value × Value))
  deriving Inhabited

/-- The days from 0001-01-01 to a date of the Gregorian calendar. -/
def Stamp.dayNumber (t : Stamp) : Nat :=
  let y := t.year - 1
  let leap := t.year % 4 == 0 && (t.year % 100 != 0 || t.year % 400 == 0)
  let before := [0, 31, 59, 90, 120, 151, 181, 212, 243, 273, 304, 334].getD (t.month - 1) 0
  365 * y + y / 4 - y / 100 + y / 400 + before + (if leap && t.month > 2 then 1 else 0) +
    (t.day - 1)

/-- The microseconds from 0001-01-01 at midnight to a time, counted in the time of its
offset: the moment it names when the offset is taken off. -/
def Stamp.moment (t : Stamp) : Int :=
  let (h, m, s, us) := t.time.getD (0, 0, 0, 0)
  let minutes : Int := (t.dayNumber * 24 + h) * 60 + m - t.offset.getD 0
  (minutes * 60 + s) * 1000000 + us

/-- Whether two calendar values are equal: dates by their fields, times without offsets by
their fields, and times with offsets as moments. A date is no time's equal, and a time
with an offset is no equal of one without. -/
def Stamp.same (a b : Stamp) : Bool :=
  match a.time, b.time, a.offset, b.offset with
  | some _, some _, some _, some _ => a.moment == b.moment
  | some _, some _, none, none => a == b
  | none, none, _, _ => a == b
  | _, _, _, _ => false

namespace Value

/-- The name of the kind of a value, as error messages spell it. -/
def kindName : Value → String
  | null => "NoneType"
  | bool _ => "bool"
  | int _ => "int"
  | float _ => "float"
  | str _ => "str"
  | bytes _ => "bytes"
  | stamp t => if t.time.isSome then "datetime" else "date"
  | list _ => "list"
  | set _ => "set"
  | dict _ => "dict"

/-- The number a boolean or an integer stands for. -/
def asInt? : Value → Option Int
  | bool b => some (if b then 1 else 0)
  | int n => some n
  | _ => none

/-- Whether two values are the same key of a mapping. Numbers of different kinds are the
same key when they are equal numbers; a NaN is no key's equal, not even its own. -/
def sameKey : Value → Value → Bool
  | null, null => true
  | str a, str b => a == b
  | bytes a, bytes b => a == b
  | stamp a, stamp b => a.same b
  | float x, float y => x == y
  | float x, v => match v.asInt? with
    | some n => Float.integer? x == some n
    | none => false
  | v, float y => match v.asInt? with
    | some n => Float.integer? y == some n
    | none => false
  | a, b => match a.asInt?, b.asInt? with
    | some m, some n => m == n
    | _, _ => false

/-- Sets the value of key `k`: an existing key keeps its place and its first spelling and
takes the new value, a new key goes last. -/
def setEntry (entries : List (Value × Value)) (k v : Value) : List (Value × Value) :=
  match entries with
  | [] => [(k, v)]
  | (k', v') :: rest => if sameKey k' k then (k', v) :: rest else (k', v') :: setEntry rest k v

/-- The mapping of a list of entries, where a later entry of a key replaces an earlier one. -/
def ofEntries (entries : List (Value × Value)) : List (Value × Value) :=
  entries.foldl (fun acc (k, v) => setEntry acc k v) []

/-- The value under the text key `k` of a mapping's entries. -/
def lookupText (entries : List (Value × Value)) (k : String) : Option Value :=
  (entries.find? fun e => sameKey e.1 (str k)).map Prod.snd

/-- The value under the text key `k`, when the value is a mapping. -/
def field? : Value → String → Option Value
  | dict entries, k => lookupText entries k
  | _, _ => none

/-- The text of a text value. -/
def asText? : Value → Option String
  | str s => some s
  | _ => none

/-- A value counts as true unless it is null, false, zero, an empty text, or an empty
list or mapping. -/
def truthy : Value → Bool
  | null => false
  | bool b => b
  | int n => n != 0
  | float x => x != 0
  | str s => !s.isEmpty
  | bytes b => !b.isEmpty
  | stamp _ => true
  | list xs => !xs.isEmpty
  | set xs => !xs.isEmpty
  | dict es => !es.isEmpty

end Value

theorem Value.setEntry_nil (k v : Value) : Value.setEntry [] k v = [(k, v)] := rfl

end CrudScaffold.Data
