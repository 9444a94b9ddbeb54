/-
# Numerals

Numbers as they are written in settings. An unsigned number has decimal digits, with a plus sign
before them or without; zeros may lead. Any number may have either sign, a point among its digits,
or at one end of them, and an exponent behind `e` or `E`; infinity and what is no number have names,
which may be written in letters of either case.
-/

namespace DockerMatrix
namespace Text

/-- The value of decimal digits behind those that have been read. -/
def digitsFrom (value : Nat) : List Char → Option Nat
  | [] => some value
  | c :: rest =>
    if c.isDigit then digitsFrom (value * 10 + (c.toNat - '0'.toNat)) rest else none

/-- The number that a text is, if it is one. -/
def number? (text : List Char) : Option Nat :=
  match text with
  | '+' :: c :: rest => digitsFrom 0 (c :: rest)
  | ['+'] => none
  | [] => none
  | _ => digitsFrom 0 text

/-- The text without a sign in front. -/
def unsigned : List Char → List Char
  | '+' :: rest => rest
  | '-' :: rest => rest
  | text => text

/-- Whether a text is empty or an exponent: `e` or `E`, a sign or none, and digits. -/
def isExponent : List Char → Bool
  | [] => true
  | c :: rest =>
    (c = 'e' || c = 'E') && !(unsigned rest).isEmpty && (unsigned rest).all Char.isDigit

/-- Whether a text is any number. -/
def isNumeral (text : List Char) : Bool :=
  let body := unsigned text
  let whole := body.takeWhile Char.isDigit
  let rest := body.dropWhile Char.isDigit
  let (fraction, rest) :=
    match rest with
    | '.' :: rest => (rest.takeWhile Char.isDigit, rest.dropWhile Char.isDigit)
    | _ => ([], rest)
  ["inf", "infinity", "nan"].contains (String.ofList (body.map Char.toLower)) ||
    (!(whole ++ fraction).isEmpty && isExponent rest)

end Text
end DockerMatrix
