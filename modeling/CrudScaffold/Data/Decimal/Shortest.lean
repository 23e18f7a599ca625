import CrudScaffold.Data.Decimal

/-!
# The shortest decimal of a double

A finite double stands for every real number in its rounding interval: the reals nearer to
it than to its neighbours, the ends included when its significand is even. The shortest
decimal of a double is the decimal with the fewest significant digits in that interval, and
of two such decimals the one nearer to the double (the even one on a tie). It reads back as
the same double, and no decimal with fewer digits does.

`shortestDecimal` finds it by trying 1, 2, ... 17 significant digits: for each count it tests
the two decimals of that many digits just below and just above the double, in exact
integer arithmetic. Seventeen digits always suffice.
-/

namespace CrudScaffold.Data

/-- A finite double as `(-1)^negative · m · 2^q`, with the hidden bit in `m`; `narrowBelow`
marks a power of two above the smallest exponent, whose lower neighbour is twice as close
as its upper one. -/
structure BinaryParts where
  negative : Bool
  m : Nat
  q : Int
  narrowBelow : Bool
  deriving Repr

/-- The parts of a finite double; none for an infinity or a NaN. -/
def Float.parts? (x : Float) : Option BinaryParts :=
  let bits : Nat := x.toBits.toNat
  let e : Nat := (bits / Nat.pow 2 52) % 2048
  let f : Nat := bits % Nat.pow 2 52
  let negative := bits / Nat.pow 2 63 == 1
  if e == 2047 then none
  else if e == 0 then some ⟨negative, f, -1074, false⟩
  else some ⟨negative, f + Nat.pow 2 52, (e : Int) - 1075, f == 0 && e > 1⟩

/-- The least `j ≥ 1` with `x · 10^j ≥ den`, searched up to `fuel`. -/
def firstPowerReaching (x den : Nat) : Nat → Nat → Nat
  | 0, j => j
  | fuel + 1, j => if x * Nat.pow 10 j ≥ den then j else firstPowerReaching x den fuel (j + 1)

/-- The shortest decimal `d · 10^e` in the rounding interval of a double with nonzero
significand, with no trailing zero in `d`. -/
def shortestDecimal (b : BinaryParts) : Nat × Int :=
  -- Scale by 2^s so that the double and its interval ends are integers over `den`.
  let s : Nat := (2 - b.q).toNat
  let shift : Nat := (b.q + s).toNat
  let x : Nat := b.m * Nat.pow 2 shift
  let half : Nat := Nat.pow 2 (shift - 1)
  let low : Nat := x - (if b.narrowBelow then half / 2 else half)
  let high : Nat := x + half
  let inclusive := b.m % 2 == 0
  let den : Nat := Nat.pow 2 s
  -- The decimal exponent of the leading digit.
  let lead : Int :=
    if x ≥ den then (digitCount (x / den) : Int) - 1
    else -(firstPowerReaching x den 400 1 : Int)
  -- Whether `d · 10^e` lies in the interval, and its distance to the double, both scaled.
  let test (d : Nat) (e : Int) : Bool × Nat :=
    let up := (max e 0).toNat
    let down := (max (-e) 0).toNat
    let a := d * den * Nat.pow 10 up
    let lo := low * Nat.pow 10 down
    let hi := high * Nat.pow 10 down
    let mid := x * Nat.pow 10 down
    let inside := if inclusive then lo ≤ a && a ≤ hi else lo < a && a < hi
    (inside, if a ≥ mid then a - mid else mid - a)
  let attempt (n : Nat) : Option (Nat × Int) :=
    let e : Int := lead - n + 1
    let below : Nat :=
      if e ≥ 0 then x / (den * Nat.pow 10 e.toNat) else x * Nat.pow 10 (-e).toNat / den
    let (inBelow, distBelow) := test below e
    let (inAbove, distAbove) := test (below + 1) e
    if inBelow && inAbove then
      if distBelow < distAbove || (distBelow == distAbove && below % 2 == 0) then some (below, e)
      else some (below + 1, e)
    else if inBelow then some (below, e)
    else if inAbove then some (below + 1, e)
    else none
  let found := ((List.range 17).map (· + 1)).findSome? attempt
  let (d, e) := found.getD (x, -(s : Int))
  stripZeros d e 20
where
  -- Moves trailing zeros of the digits into the exponent.
  stripZeros (d : Nat) (e : Int) : Nat → Nat × Int
    | 0 => (d, e)
    | fuel + 1 => if d ≠ 0 && d % 10 == 0 then stripZeros (d / 10) (e + 1) fuel else (d, e)

/-- The shortest text of a double that reads back as it: `nan`, `inf`, `-inf`; positional
with at least one decimal when the leading digit stands between 10^-4 and 10^15, otherwise a
mantissa with an exponent of a sign and at least two digits (`1e+16`, `1.5e-05`). -/
def Float.shortText (x : Float) : String :=
  match Float.parts? x with
  | none => if x != x then "nan" else if x < 0 then "-inf" else "inf"
  | some b =>
    let sign := if b.negative then "-" else ""
    if b.m == 0 then sign ++ "0.0"
    else
      let (d, e) := shortestDecimal b
      let digits := (toString d).toList
      let n := digits.length
      let text (cs : List Char) := String.ofList cs
      let point : Int := n + e
      let zeros (k : Nat) := String.ofList (List.replicate k '0')
      let body :=
        if point ≤ -4 || point > 16 then
          let exp := point - 1
          let mantissa :=
            if n > 1 then text (digits.take 1) ++ "." ++ text (digits.drop 1) else text digits
          let expDigits := toString exp.natAbs
          mantissa ++ "e" ++ (if exp < 0 then "-" else "+") ++
            (if expDigits.length < 2 then "0" ++ expDigits else expDigits)
        else if point ≤ 0 then "0." ++ zeros (-point).toNat ++ text digits
        else if point < n then
          text (digits.take point.toNat) ++ "." ++ text (digits.drop point.toNat)
        else text digits ++ zeros (point.toNat - n) ++ ".0"
      sign ++ body

end CrudScaffold.Data
