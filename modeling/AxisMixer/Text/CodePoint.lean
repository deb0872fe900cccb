/-!
# Code points — strings in which a surrogate may stand alone

A string of a JSON text is a list of code points, and an escape in it can denote half of a surrogate
pair without the other half.  No text holds such a half.  Where text is needed, a stand-in takes the
place of each half: a character for private use, another one for each half, and none that the
strings in question hold themselves.  So two strings become the same text only if they are the same,
and every code point keeps its place.

* `CodePoint.joinHalves`: the pairs of a string joined to characters.
* `StandIns.text`: a string as text.
* `StandIns.avoiding`: stand-ins that some strings do not hold.
-/

namespace AxisMixer.Text

/-- A character, or half of a surrogate pair, counted from the first such half on. -/
inductive CodePoint where
  | char (c : Char)
  | half (n : Fin 0x800)
  deriving DecidableEq, Repr

namespace CodePoint

/-- The first half of a surrogate pair.  The halves that come first in a pair are 0x400 in number,
and those that come second follow them. -/
def firstHalf : Nat := 0xD800

def value : CodePoint → Nat
  | char c => c.toNat
  | half n => firstHalf + n

/-- The code point that a code unit denotes by itself. -/
def ofUnit (n : Nat) : CodePoint :=
  if h : firstHalf ≤ n ∧ n - firstHalf < 0x800 then half ⟨n - firstHalf, h.2⟩
  else char (Char.ofNat n)

/-- The character that a pair of halves stands for. -/
def pair (high low : Nat) : Char := Char.ofNat (0x10000 + 0x400 * high + (low - 0x400))

/-- Joins each half that comes first in a pair with one that comes second, if it follows at once. -/
def joinHalves : List CodePoint → List CodePoint
  | half high :: half low :: rest =>
    if high.val < 0x400 ∧ 0x400 ≤ low.val then char (pair high low) :: joinHalves rest
    else half high :: joinHalves (half low :: rest)
  | p :: rest => p :: joinHalves rest
  | [] => []
termination_by points => points.length

end CodePoint

/-- The code points of a text, all of which are characters. -/
def codePoints (s : String) : List CodePoint := s.toList.map .char

/-! ### Stand-ins -/

/-- The characters that stand for the halves of surrogate pairs. -/
structure StandIns where
  /-- The stand-in of the first half; those of the others follow it. -/
  first : Nat

namespace StandIns

/-- The stand-ins to choose from, as far as they go without overlap: all that is set aside for
private use beyond the first 0x10000 characters. -/
def choices : List StandIns := (List.range 64).map fun k => ⟨0xF0000 + 0x800 * k⟩

def holds (s : StandIns) : CodePoint → Bool
  | .char c => s.first ≤ c.toNat && c.toNat < s.first + 0x800
  | .half _ => false

/-- The first choice that none of the code points is among; the very first if there is no such
choice. -/
def avoiding (points : List CodePoint) : StandIns :=
  (choices.find? fun s => !points.any s.holds).getD ⟨0xF0000⟩

/-- The character that stands for a code point: itself if it is one. -/
def char (s : StandIns) : CodePoint → Char
  | .char c => c
  | .half n => Char.ofNat (s.first + n)

def text (s : StandIns) (points : List CodePoint) : String := String.ofList (points.map s.char)

theorem text_codePoints (s : StandIns) (t : String) : s.text (codePoints t) = t := by
  simp [text, codePoints, Function.comp_def, char]

end StandIns

end AxisMixer.Text
