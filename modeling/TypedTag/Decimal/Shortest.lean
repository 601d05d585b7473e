/-! # Shortest decimals

The shortest decimal that reads back as a given binary fraction. The numbers that round to the
fraction form an interval. The coarsest decimal grid with a point inside it gives the fewest digits,
and of two such points the nearer one is taken, on a tie the even one.
-/

namespace TypedTag.Decimal

/-- A positive fraction `mantissa * 2 ^ exponent` with the numbers that round to it. They lie
between `low` and `high` quarters of the last binary place, the ends included if `closed`. -/
structure Rounded where
  mantissa : Nat
  exponent : Int
  low : Nat
  high : Nat
  closed : Bool

/-- The magnitude with the given bits, which must be those of a finite number. -/
def Rounded.ofBits (bits : UInt64) : Rounded :=
  let e : Nat := (bits.toNat >>> 52) % (1 <<< 11)
  let f : Nat := bits.toNat % (1 <<< 52)
  let m := if e = 0 then f else (1 <<< 52) + f
  { mantissa := m
    exponent := if e = 0 then -1074 else e - 1075
    low := if f = 0 ∧ 1 < e then 4 * m - 1 else 4 * m - 2
    high := 4 * m + 2
    closed := m % 2 = 0 }

structure Numeral where
  digits : Nat
  scale : Int
  deriving DecidableEq, Repr

/-- Both sides of a comparison between `d * 10 ^ k` and `q` quarters of `2 ^ e`, as integers. -/
def crossed (d : Nat) (k : Int) (q : Nat) (e : Int) : Nat × Nat :=
  ((d * Nat.pow 10 k.toNat) <<< (2 - e).toNat, (q * Nat.pow 10 (-k).toNat) <<< (e - 2).toNat)

def Rounded.contains (r : Rounded) (d : Numeral) : Bool :=
  let (a, low) := crossed d.digits d.scale r.low r.exponent
  let (b, high) := crossed d.digits d.scale r.high r.exponent
  if r.closed then low ≤ a && b ≤ high else low < a && b < high

/-- The point of the grid `10 ^ k` that stands for the fraction, if there is one. -/
def Rounded.onGrid? (r : Rounded) (k : Int) : Option Numeral :=
  let (unit, value) := crossed 1 k (4 * r.mantissa) r.exponent
  let below : Numeral := ⟨value / unit, k⟩
  let above : Numeral := ⟨value / unit + 1, k⟩
  let gap := 2 * (value % unit)
  let nearer := if gap < unit ∨ (gap = unit ∧ below.digits % 2 = 0) then below else above
  let farther := if nearer = below then above else below
  [nearer, farther].find? r.contains

/-- The shortest decimal for a positive finite number. Every such number has one on a grid between
`10 ^ 309` and `10 ^ -324`, so zero is never the answer. -/
def shortest (x : Float) : Numeral :=
  let r := Rounded.ofBits x.toBits
  ((List.range 640).findSome? fun (i : Nat) => r.onGrid? (310 - i)).getD ⟨0, 0⟩

end TypedTag.Decimal
