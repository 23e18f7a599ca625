/-!
# Decimal numbers

Reading a decimal number into a double, and taking a double apart into its sign, significand
and binary exponent. Reading rounds to the nearest double; a number too large for a double
is infinite and one too small is zero, decided before any large power is formed. Writing a
double back as a decimal is `Data.Decimal.Shortest`.
-/

namespace CrudScaffold.Data

/-- The number of decimal digits of `n` (one for zero). -/
def digitCount (n : Nat) : Nat := (Nat.toDigits 10 n).length

/-- The number that a list of decimal digits spells. -/
def digitsValue (cs : List Char) : Nat := cs.foldl (fun n c => 10 * n + (c.toNat - '0'.toNat)) 0

/-- The double nearest to `(q + δ) * 2^e`, ties to even, where `δ` in `[0, 1)` is nonzero
exactly when `inexact` holds. It is right when `q` has at least 55 bits or `inexact` is false,
as then the bits dropped decide it. -/
def nearestFloat (q : Nat) (e : Int) (inexact : Bool) : Float :=
  if q = 0 then 0
  else
    let wide : Int := ((q.log2 + 1 : Nat) : Int) - 53
    let s : Int := if wide < -1074 - e then -1074 - e else wide
    if s ≤ 0 then q.toUInt64.toFloat.scaleB e
    else
      let k := s.toNat
      let m := q >>> k
      let rest := q % Nat.pow 2 k
      let half := Nat.pow 2 (k - 1)
      let up := rest > half || (rest == half && (inexact || m % 2 == 1))
      (if up then m + 1 else m).toUInt64.toFloat.scaleB (e + s)

/-- The double nearest to a natural number; none when that is past the largest double. -/
def natToFloat? (n : Nat) : Option Float :=
  let x := nearestFloat n 0 false
  if x.isInf then none else some x

/-- The double nearest to `(-1)^neg * m * 10^e`. A negative power divides with enough bits
to spare that the quotient and whether it is exact decide the rounding. -/
def decimalToFloat (neg : Bool) (m : Nat) (e : Int) : Float :=
  let x : Float :=
    if m = 0 then 0
    else if e + digitCount m > 310 then 1 / 0
    else if e + digitCount m < -330 then 0
    else if 0 ≤ e then nearestFloat (m * Nat.pow 10 e.toNat) 0 false
    else
      let d := Nat.pow 10 (-e).toNat
      let k := (d.log2 + 57) - m.log2
      nearestFloat ((m <<< k) / d) (-(k : Int)) ((m <<< k) % d != 0)
  if neg then -x else x

/-- Reads the text of a decimal number with an optional sign, digits with an optional
fraction, and an optional exponent; `none` when the text is not of that form. -/
def parseDecimal? (s : String) : Option Float := do
  let cs := s.toList
  let (neg, cs) := match cs with
    | '-' :: r => (true, r)
    | '+' :: r => (false, r)
    | r => (false, r)
  let whole := cs.takeWhile Char.isDigit
  let cs := cs.dropWhile Char.isDigit
  let (frac, cs) := match cs with
    | '.' :: r => (r.takeWhile Char.isDigit, r.dropWhile Char.isDigit)
    | r => ([], r)
  if whole.isEmpty && frac.isEmpty then none
  let exp : Int ← match cs with
    | [] => some 0
    | c :: r =>
      if c == 'e' || c == 'E' then
        let (eneg, r) := match r with
          | '-' :: t => (true, t)
          | '+' :: t => (false, t)
          | t => (false, t)
        if !r.isEmpty && r.all Char.isDigit then
          let n : Int := digitsValue r
          some (if eneg then -n else n)
        else none
      else none
  let m := digitsValue (whole ++ frac)
  pure (decimalToFloat neg m (exp - frac.length))

/-- The sign, the integer `m` and the power of two `q` with value `(-1)^sign * m * 2^q` of a
finite double, or `none` for an infinity or a NaN. -/
def Float.binary? (x : Float) : Option (Bool × Nat × Int) :=
  let bits : Nat := x.toBits.toNat
  let sign := bits / Nat.pow 2 63 % 2 == 1
  let e : Nat := bits / Nat.pow 2 52 % Nat.pow 2 11
  let f : Nat := bits % Nat.pow 2 52
  if e = Nat.pow 2 11 - 1 then none
  else if e = 0 then some (sign, f, -1074)
  else some (sign, f + Nat.pow 2 52, (e : Int) - 1075)

/-- The integer a double stands for, when it is finite and has no fractional part. -/
def Float.integer? (x : Float) : Option Int :=
  match Float.binary? x with
  | none => none
  | some (neg, m, q) =>
    let n : Option Nat :=
      if 0 ≤ q then some (m * Nat.pow 2 q.toNat)
      else if m % Nat.pow 2 (-q).toNat = 0 then some (m / Nat.pow 2 (-q).toNat)
      else none
    n.map fun n => if neg then -(n : Int) else n

theorem nearestFloat_zero (e : Int) (inexact : Bool) : nearestFloat 0 e inexact = 0 := by
  simp [nearestFloat]

end CrudScaffold.Data
