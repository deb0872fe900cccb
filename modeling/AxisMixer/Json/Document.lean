import AxisMixer.Decimal.Shortest
import AxisMixer.Text.Quoted

/-!
# Documents — the values of a JSON text

An object keeps its fields in the order in which their names first appear.  Integers are unbounded
and apart from the other numbers.  Strings are lists of code points.

* `Document.shown`: a document as it appears in a message.
* `Document.standIns`: characters for the code points of its strings that are none.
-/

namespace AxisMixer

inductive Document where
  | null
  | bool (value : Bool)
  | int (value : Int)
  | real (value : Decimal.Binary64)
  | text (points : List Text.CodePoint)
  | array (items : List Document)
  | object (fields : List (List Text.CodePoint × Document))
  deriving Inhabited

namespace Document

/-- Positional while the first digit stands for `10⁻⁴` to `10¹⁵`, and then always with a decimal
point and a digit behind it; else with an exponent of at least two digits and a sign. -/
def realText : Decimal.Binary64 → String
  | .nan => "nan"
  | .infinite negative => if negative then "-inf" else "inf"
  | .finite negative mantissa exponent =>
    let sign := if negative then "-" else ""
    if mantissa = 0 then sign ++ "0.0"
    else
      let (digits, point) := Decimal.shortestDigits mantissa exponent
      let zeros (n : Int) := List.replicate n.toNat '0'
      sign ++ String.ofList (
        if -4 < point ∧ point ≤ 16 then
          if point ≤ 0 then '0' :: '.' :: zeros (-point) ++ digits
          else
            let whole := digits.take point.toNat ++ zeros (point - digits.length)
            let rest := digits.drop point.toNat
            whole ++ '.' :: if rest.isEmpty then ['0'] else rest
        else
          let power := point - 1
          let rest := digits.drop 1
          let powerDigits := Nat.toDigits 10 power.natAbs
          digits.take 1 ++ (if rest.isEmpty then [] else '.' :: rest) ++
            'e' :: (if power < 0 then '-' else '+') ::
            (List.replicate (2 - powerDigits.length) '0' ++ powerDigits))

mutual

/-- The document as a message shows it. -/
def shown : Document → String
  | null => "None"
  | bool value => if value then "True" else "False"
  | int value => toString value
  | real value => realText value
  | text points => Text.quotedPoints points
  | array items => "[" ++ String.intercalate ", " (shownItems items) ++ "]"
  | object fields => "\x7b" ++ String.intercalate ", " (shownFields fields) ++ "\x7d"

def shownItems : List Document → List String
  | [] => []
  | d :: rest => d.shown :: shownItems rest

def shownFields : List (List Text.CodePoint × Document) → List String
  | [] => []
  | (name, d) :: rest => (Text.quotedPoints name ++ ": " ++ d.shown) :: shownFields rest

end

mutual

/-- The code points of all strings in the document, the names of fields included. -/
def points : Document → List Text.CodePoint
  | text points => points
  | array items => itemPoints items
  | object fields => fieldPoints fields
  | null | bool _ | int _ | real _ => []

def itemPoints : List Document → List Text.CodePoint
  | [] => []
  | d :: rest => d.points ++ itemPoints rest

def fieldPoints : List (List Text.CodePoint × Document) → List Text.CodePoint
  | [] => []
  | (name, d) :: rest => name ++ d.points ++ fieldPoints rest

end

/-- Stand-ins that occur nowhere in the document. -/
def standIns (d : Document) : Text.StandIns := .avoiding d.points

end Document

end AxisMixer
