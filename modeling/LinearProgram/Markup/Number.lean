/-
  Number — numbers as a configuration writes them without quotes.

  1. **Whole numbers** may be written to the bases two, eight, ten and sixteen, which the first
     characters tell, and with colons to the base sixty. Underscores among the digits say nothing.

  2. **Reals** have a point, and a sign in front of their exponent if they have one. The part in
     front of the point may be written to the base sixty.
-/

import LinearProgram.Decimal.Literal
import LinearProgram.Markup.Quoted

namespace LinearProgram.Markup

/-! ## Whole numbers -/

/-- Are these digits to a base, or underscores, and at least one of them? -/
def areDigits (base : Nat) (t : Text) : Bool :=
  ! t.isEmpty && t.all fun c => c == '_' || (digit? base c).isSome

/-- The number that digits behind the mark of a base stand for. -/
def marked (base : Nat) (t : Text) : Except Defect Nat :=
  match t.filter (· ≠ '_') with
  | [] => .error (.digitless base)
  | digits => .ok ((ofDigits? base digits).getD 0)

/-- The number that digits to the base ten stand for. -/
def tens (t : Text) : Nat := (ofDigits? 10 (t.filter (· ≠ '_'))).getD 0

/-- The number behind a colon to the base sixty: one digit, or two of which the first is at most
    five. -/
def sixtieth? : Text → Option Nat
  | [c] => digit? 10 c
  | [c, d] => (digit? 6 c).bind fun high => (digit? 10 d).map (10 * high + ·)
  | _ => none

/-- A whole number without its sign. -/
def magnitude? (t : Text) : Option (Except Defect Nat) :=
  match t with
  | [] => none
  | ['0'] => some (.ok 0)
  | '0' :: 'b' :: digits => if areDigits 2 digits then some (marked 2 digits) else none
  | '0' :: 'x' :: digits => if areDigits 16 digits then some (marked 16 digits) else none
  | '0' :: digits => if areDigits 8 digits then some (marked 8 ('0' :: digits)) else none
  | '_' :: _ => none
  | _ =>
    match Text.splitAt ':' t with
    | [] => none
    | first :: rest =>
      if areDigits 10 first then
        (rest.mapM sixtieth?).map fun parts =>
          .ok (parts.foldl (fun n part => 60 * n + part) (tens first))
      else none

/-- The whole number that a plain scalar is. -/
def integer? (t : Text) : Option (Except Defect Int) :=
  match Decimal.readSign t with
  | (negative, t) =>
    (magnitude? t).map fun found => found.map fun n => if negative then -(n : Int) else n

example : (integer? "-0x1_F".toList).map Except.toOption = some (some (-31)) := by decide

example : (integer? "1:30".toList).map Except.toOption = some (some 90)
    ∧ (integer? "127.0.0.1".toList).isNone := by decide

/-! ## Reals -/

/-- The words for infinity and for what is no number. -/
def infinityWords : List Text := [".inf".toList, ".Inf".toList, ".INF".toList]

@[inherit_doc infinityWords]
def notANumberWords : List Text := [".nan".toList, ".NaN".toList, ".NAN".toList]

/-- An exponent with its sign; there may be none. -/
def isExponent : Text → Bool
  | [] => true
  | [_] => false
  | mark :: sign :: digits =>
    (mark == 'e' || mark == 'E') && (sign == '+' || sign == '-') && ! digits.isEmpty
      && digits.all fun c => (digit? 10 c).isSome

/-- Is this a fraction and an exponent? -/
def isFraction (t : Text) : Bool :=
  isExponent (t.dropWhile fun c => c == '_' || (digit? 10 c).isSome)

/-- A number of the base ten. -/
def literal (t : Text) : Float :=
  match Decimal.Literal.read? (t.filter (· ≠ '_')) with
  | some l => l.value
  | none => 0.0

/-- A number of the base sixty, its parts from the last one on. -/
def sixties (parts : List Float) : Float :=
  (parts.foldl (fun (x, unit) part => (x + part * unit, unit * 60.0)) (0.0, (1.0 : Float))).1

/-- Does a text start with a digit? -/
def startsWithDigit : Text → Bool
  | [] => false
  | c :: _ => (digit? 10 c).isSome

/-- A real without its sign; one without a digit in front of the point has none. -/
def unsignedReal? (hasSign : Bool) (t : Text) : Option Float :=
  match Text.cutAt? '.' t with
  | none => none
  | some (whole, fraction) =>
    if whole.isEmpty then
      if ! hasSign && startsWithDigit fraction && isFraction fraction then some (literal t) else none
    else
      match Text.splitAt ':' whole with
      | [] => none
      | [_] =>
        if startsWithDigit whole && areDigits 10 whole && isFraction fraction
        then some (literal t) else none
      | first :: rest =>
        if startsWithDigit first && areDigits 10 first && (rest.mapM sixtieth?).isSome
          && (fraction.isEmpty || areDigits 10 fraction)
        then some (sixties ((Text.splitAt ':' t).reverse.map literal)) else none

/-- The real that a plain scalar is. -/
def real? (t : Text) : Option Float :=
  if notANumberWords.contains t then some (Float.ofBits 0x7FF8000000000000)
  else
    match Decimal.readSign t with
    | (negative, u) =>
      let magnitude? :=
        if infinityWords.contains u then some (Float.ofBits 0x7FF0000000000000)
        else unsignedReal? (u.length < t.length) u
      magnitude?.map fun x => if negative then -x else x

end LinearProgram.Markup
