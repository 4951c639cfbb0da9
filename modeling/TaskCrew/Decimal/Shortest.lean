import TaskCrew.Decimal.Basic

/-!
# The shortest decimal of a floating point number

A floating point number stands for an interval of reals, those that round to it. Its shortest
decimal is the one with the fewest digits in that interval, and of several the nearest.

* `Parts` — mantissa and binary exponent of a positive finite number, with its interval;
* `Shortest`, `shortest` — the digits and the decimal exponent of the shortest decimal;
* `Layout`, `layout` — how a decimal is laid out, and the layout used in messages;
* `shown` — the text of a floating point number.

**Design.** For one digit, two digits and so on the two neighbours of the number on the decimal grid
of that many digits are tried in exact arithmetic on natural numbers. If a point of a grid lies in
the interval then so does one of the two neighbours on that grid, so the first grid with a hit has
the fewest digits.
-/

namespace TaskCrew.Decimal

/-- A positive number `mantissa * 2 ^ exponent` with the interval that rounds to it, in quarters of
the last binary place. -/
structure Parts where
  /-- Four times the mantissa. -/
  middle : Nat
  /-- The lower end of the interval, as a multiple of a quarter place. -/
  lower : Nat
  /-- The upper end of the interval, as a multiple of a quarter place. -/
  upper : Nat
  /-- Whether the ends belong to the interval. -/
  closed : Bool
  /-- The binary exponent of a quarter place. -/
  exponent : Int

/-- The parts of a positive finite number, from the bits of its magnitude. -/
def Parts.ofBits (bits : Nat) : Parts :=
  let fraction := bits % Nat.pow 2 52
  let power := bits / Nat.pow 2 52
  let mantissa := if power = 0 then fraction else Nat.pow 2 52 + fraction
  { middle := 4 * mantissa
    lower := 4 * mantissa - (if fraction = 0 ∧ 1 < power then 1 else 2)
    upper := 4 * mantissa + 2
    closed := mantissa % 2 = 0
    exponent := (max power 1 : Nat) - 1077 }

/-- Digits and decimal exponent: the number `d.ddd * 10 ^ exponent`. -/
structure Shortest where
  /-- The digits, the first of them not zero. -/
  digits : List Char
  /-- The power of ten of the first digit. -/
  exponent : Int

namespace Parts

/-- The quarter place as a fraction: its numerator and its denominator. -/
def place (p : Parts) : Nat × Nat :=
  (Nat.pow 2 p.exponent.toNat, Nat.pow 2 (-p.exponent).toNat)

/-- The power of ten of the leading digit of `num / den`, counted upwards. -/
def leadingUp (num den : Nat) : Nat → Nat
  | 0 => 0
  | fuel + 1 => if num < 10 * den then 0 else leadingUp num (10 * den) fuel + 1

/-- How often `num / den` is multiplied by ten until it reaches one. -/
def leadingDown (num den : Nat) : Nat → Nat
  | 0 => 0
  | fuel + 1 => if num ≥ den then 0 else leadingDown (10 * num) den fuel + 1

/-- The power of ten of the leading digit. -/
def leading (p : Parts) : Int :=
  let (n, d) := p.place
  let up := leadingUp (p.middle * n) d 400
  if p.middle * n ≥ d then up else -(leadingDown (p.middle * n) d 400 : Nat)

/-- The number in units of `10 ^ e`, as a fraction. -/
def scaled (p : Parts) (quarters : Nat) (e : Int) : Nat × Nat :=
  let (n, d) := p.place
  (quarters * n * Nat.pow 10 (-e).toNat, d * Nat.pow 10 e.toNat)

/-- Whether `k * 10 ^ e` rounds to the number. -/
def rounds (p : Parts) (k : Nat) (e : Int) : Bool :=
  let (ln, ld) := p.scaled p.lower e
  let (un, ud) := p.scaled p.upper e
  if p.closed then ln ≤ k * ld && k * ud ≤ un else ln < k * ld && k * ud < un

/-- The decimal with `count` digits that rounds to the number, if there is one: of two the nearer,
of two at equal distance the even one. -/
def withDigits (p : Parts) (lead : Int) (count : Nat) : Option (Nat × Int) :=
  let e := lead - (count - 1 : Nat)
  let (num, den) := p.scaled p.middle e
  let k := num / den
  match p.rounds k e, p.rounds (k + 1) e with
  | true, false => some (k, e)
  | false, true => some (k + 1, e)
  | true, true =>
    let twice := 2 * (num - k * den)
    if twice < den ∨ (twice = den ∧ k % 2 = 0) then some (k, e) else some (k + 1, e)
  | false, false => none

/-- The first hit with at least `count` digits. -/
def search (p : Parts) (lead : Int) (count : Nat) : Nat → Nat × Int
  | 0 => (0, 0)
  | fuel + 1 => (p.withDigits lead count).getD (search p lead (count + 1) fuel)

/-- The shortest decimal of a positive number. -/
def shortest (p : Parts) : Shortest :=
  let (k, e) := p.search p.leading 1 17
  let digits := ofNat k
  let kept := (digits.reverse.dropWhile (· = '0')).reverse
  { digits := kept, exponent := e + (digits.length - 1 : Nat) }

end Parts

/-- How a decimal is laid out: the powers of ten of the leading digit that are written
positionally are those from `least` to below `greatest`. -/
structure Layout where
  /-- The least power that is written positionally. -/
  least : Int
  /-- The first power that is no longer written positionally. -/
  greatest : Int

/-- Messages write a number positionally from `0.00001` to below `10 ^ 16`. -/
def layout : Layout := ⟨-5, 16⟩

/-- A decimal laid out: positionally with at least one place, or with an exponent that always has a
sign. -/
def Shortest.write (s : Shortest) (l : Layout) : List Char :=
  if s.exponent < l.least ∨ l.greatest ≤ s.exponent then
    let mark := if s.exponent < 0 then ofInt s.exponent else '+' :: ofInt s.exponent
    match s.digits with
    | [d] => d :: 'e' :: mark
    | d :: ds => d :: '.' :: ds ++ 'e' :: mark
    | [] => []
  else if s.exponent < 0 then
    '0' :: '.' :: List.replicate (-s.exponent - 1).toNat '0' ++ s.digits
  else
    let whole := s.exponent.toNat + 1
    let front := s.digits.take whole ++ List.replicate (whole - s.digits.length) '0'
    let places := s.digits.drop whole
    front ++ '.' :: (if places.isEmpty then ['0'] else places)

/-- The text of a finite floating point number. -/
def shown (x : Float) : String :=
  let bits := x.toBits.toNat
  let magnitude := bits % Nat.pow 2 63
  let sign := if bits = magnitude then [] else ['-']
  let body :=
    if magnitude = 0 then ['0', '.', '0'] else ((Parts.ofBits magnitude).shortest).write layout
  String.ofList (sign ++ body)

end TaskCrew.Decimal
