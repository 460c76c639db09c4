import MappingMarkers.Text.Basic
import MappingMarkers.Text.DigitTable
import MappingMarkers.Text.Quoted

namespace MappingMarkers.Text

inductive IntegerError where
  /-- The text does not have the form of a number. -/
  | malformed (text : Text)
  /-- The text has more digits than are read. -/
  | tooLong (digits : Nat)
  deriving DecidableEq

/-- The most digits that are read. -/
def digitLimit : Nat := 4300

/-- The message shows at most this much of the quoted text. -/
def shownLimit : Nat := 200

def IntegerError.message : IntegerError → Text
  | .malformed t =>
      "invalid literal for int() with base 10: ".toList ++ (quoted t).take shownLimit
  | .tooLong n =>
      "Exceeds the limit (".toList ++ ofNat digitLimit ++
        " digits) for integer string conversion: value has ".toList ++ ofNat n ++
        " digits; use sys.set_int_max_str_digits() to increase the limit".toList

/-- The blanks that may stand around a number: as everywhere, except for the information
separators. -/
def isNumberBlank (c : Char) : Bool := isBlank c && !(28 ≤ c.toNat && c.toNat ≤ 31)

/-- The leading digits and what follows them; `none` when an underscore among them does not stand
between two digits. `ready` says that a digit came right before. -/
def digitRun (ready : Bool) : Text → Option (List Nat × Text)
  | [] => some ([], [])
  | '_' :: cs =>
      if ready && (cs.head?.bind digitValue?).isSome then digitRun false cs else none
  | c :: cs =>
      match digitValue? c with
      | some d => (digitRun true cs).map fun (ds, rest) => (d :: ds, rest)
      | none => some ([], c :: cs)

def ofDigits (ds : List Nat) : Nat := ds.foldl (fun n d => 10 * n + d) 0

/-- Reads a whole number. A faulty form is noticed first where it stands before the end of the
digits, then the digits are counted, and what follows them is looked at last. -/
def readInteger (t : Text) : Except IntegerError Int :=
  let body := t.dropWhile isNumberBlank
  let (negative, unsigned) :=
    match body with
    | '-' :: cs => (true, cs)
    | '+' :: cs => (false, cs)
    | cs => (false, cs)
  match digitRun false unsigned with
  | none => .error (.malformed t)
  | some (ds, rest) =>
      if ds.isEmpty then .error (.malformed t)
      else if digitLimit < ds.length then .error (.tooLong ds.length)
      else if rest.all isNumberBlank then
        .ok (if negative then -(ofDigits ds : Int) else ofDigits ds)
      else .error (.malformed t)

end MappingMarkers.Text
