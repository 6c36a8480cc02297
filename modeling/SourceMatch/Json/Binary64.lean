/-!
Finite binary floating point values of 64 bits, in exact arithmetic: rounding a quotient of natural
numbers, reading a decimal that was cut to a 64-bit significand, and the shortest decimal that
stands for a value.
-/
namespace SourceMatch.Json

open Nat (pow)

/-- The value `± significand * 2 ^ exponent`; the significand has at most 53 bits and as many of
them as the exponent, at least -1074, allows. -/
structure Binary64 where
  negative : Bool
  significand : Nat
  exponent : Int
deriving DecidableEq, Repr, Inhabited

abbrev Magnitude := Nat × Int

def Magnitude.nearest (n d : Nat) : Option Magnitude :=
  if n = 0 then some (0, -1074) else
  let guess : Int := (n.log2 : Int) - (d.log2 : Int) - 52
  let scaled (e : Int) : Nat × Nat :=
    if e < 0 then (n * pow 2 (-e).toNat, d) else (n, d * pow 2 e.toNat)
  let atGuess := scaled guess
  let e := max (-1074) (if atGuess.1 < pow 2 52 * atGuess.2 then guess - 1 else guess)
  let (num, den) := scaled e
  let q := num / den
  let r := num % den
  let q := if 2 * r > den || (2 * r == den && q % 2 == 1) then q + 1 else q
  let (q, e) := if q = pow 2 53 then (pow 2 52, e + 1) else (q, e)
  if e > 971 then none else some (q, e)

def Magnitude.nearestScaled (n d : Nat) (e : Int) : Option Magnitude :=
  if e < 0 then nearest n (d * pow 2 (-e).toNat) else nearest (n * pow 2 e.toNat) d

def Magnitude.times (a b : Magnitude) : Option Magnitude :=
  nearestScaled (a.1 * b.1) 1 (a.2 + b.2)

def Magnitude.over (a b : Magnitude) : Option Magnitude :=
  nearestScaled a.1 b.1 (a.2 - b.2)

def Magnitude.powerOfTen (k : Nat) : Option Magnitude :=
  nearest (pow 10 k) 1

def Magnitude.largestPower : Nat := 308

def Magnitude.shrink (m : Magnitude) (k : Nat) : Option Magnitude :=
  if k ≤ largestPower then do m.over (← powerOfTen k)
  else if m.1 = 0 then some m
  else do
    let smaller ← m.over (← powerOfTen largestPower)
    smaller.shrink (k - largestPower)
termination_by k
decreasing_by simp only [largestPower] at *; omega

/-- The value read for `± significand * 10 ^ exponent`: the significand is rounded first, then its
product with the rounded power of ten. `none` when it is too large. -/
def Binary64.ofDecimal (negative : Bool) (significand : Nat) (exponent : Int) : Option Binary64 := do
  let m ← Magnitude.nearest significand 1
  let signed (m : Magnitude) : Binary64 := ⟨negative, m.1, m.2⟩
  if m.1 = 0 then return signed m
  if exponent < 0 then return signed (← m.shrink (-exponent).toNat)
  if exponent.toNat ≤ Magnitude.largestPower then
    return signed (← m.times (← Magnitude.powerOfTen exponent.toNat))
  none

def compareScaled (a : Nat) (i : Int) (n : Nat) (j : Int) : Ordering :=
  compare (a * pow 10 i.toNat * pow 2 (-j).toNat) (n * pow 2 j.toNat * pow 10 (-i).toNat)

def Magnitude.readsBack (m : Magnitude) (digits : Nat) (scale : Int) : Bool :=
  let narrow := m.1 == pow 2 52 && m.2 > -1074
  let low := compareScaled digits scale (4 * m.1 - if narrow then 1 else 2) (m.2 - 2)
  let high := compareScaled digits scale (4 * m.1 + 2) (m.2 - 2)
  let closed := m.1 % 2 == 0
  (low == .gt || (closed && low == .eq)) && (high == .lt || (closed && high == .eq))

def Magnitude.scaleOf (m : Magnitude) : Int :=
  let estimate : Int := ((m.1.log2 : Int) + m.2) * 30103 / 100000 - 1
  (List.range 4).foldl (fun (k : Int) _ => if compareScaled 1 k m.1 m.2 == .gt then k else k + 1)
    estimate

/-- The two neighbours of the magnitude on the grid of `n` significant digits that read back, the
nearer one; a tie goes to the even digit. -/
def Magnitude.onGrid (m : Magnitude) (top : Int) (n : Nat) : Option (Nat × Int) :=
  let scale := top - n
  let below :=
    m.1 * pow 2 m.2.toNat * pow 10 (-scale).toNat / (pow 2 (-m.2).toNat * pow 10 scale.toNat)
  match m.readsBack below scale, m.readsBack (below + 1) scale with
  | true, true =>
    match compareScaled (2 * below + 1) scale (2 * m.1) m.2 with
    | .gt => some (below, scale)
    | .lt => some (below + 1, scale)
    | .eq => some (if below % 2 == 0 then below else below + 1, scale)
  | true, false => some (below, scale)
  | false, true => some (below + 1, scale)
  | false, false => none

def stripZeros : Nat → Nat → Int → Nat × Int
  | 0, digits, scale => (digits, scale)
  | fuel + 1, digits, scale =>
    if digits ≠ 0 ∧ digits % 10 = 0 then stripZeros fuel (digits / 10) (scale + 1)
    else (digits, scale)

def Magnitude.shortest (m : Magnitude) : Nat × Int :=
  if m.1 = 0 then (0, 0) else
  let top := m.scaleOf
  match (List.range 17).findSome? fun n => m.onGrid top (n + 1) with
  | some (digits, scale) => stripZeros 17 digits scale
  | none => (m.1 * pow 2 m.2.toNat * pow 5 (-m.2).toNat, min m.2 0)

/-- Positional notation from `10 ^ -5` up to `10 ^ 16`, always with a point; scientific beyond. -/
def Binary64.toText (x : Binary64) : String :=
  let (digits, scale) := Magnitude.shortest (x.significand, x.exponent)
  let ds := Nat.toDigits 10 digits
  let point : Int := ds.length + scale
  let zeros (n : Int) : List Char := List.replicate n.toNat '0'
  let body : List Char :=
    if digits = 0 then "0.0".toList
    else if 0 ≤ scale ∧ point ≤ 16 then ds ++ zeros scale ++ ".0".toList
    else if 0 < point ∧ point ≤ 16 then ds.take point.toNat ++ '.' :: ds.drop point.toNat
    else if -5 < point ∧ point ≤ 0 then "0.".toList ++ zeros (-point) ++ ds
    else
      let fraction := ds.drop 1
      ds.take 1 ++ (if fraction.isEmpty then [] else '.' :: fraction) ++
        'e' :: (toString (point - 1)).toList
  String.ofList (if x.negative then '-' :: body else body)

end SourceMatch.Json
