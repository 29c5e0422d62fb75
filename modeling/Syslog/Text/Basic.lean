namespace Syslog

/-!
Texts are lists of Unicode code points.

Surrogates count as code points here, because a text may hold one that is paired with
nothing.  Such a text can be compared, cut and quoted like any other, but it has no UTF-8
form; the encoder in `Syslog.Text.Utf8` is therefore the one place that can refuse a text.
-/

/-- A Unicode code point, surrogates included. -/
structure CodePoint where
  val : Nat
  isLt : val < 0x110000
deriving DecidableEq

namespace CodePoint

theorem ext {left right : CodePoint} (same : left.val = right.val) : left = right := by
  cases left
  cases right
  cases same
  rfl

/-- A number beyond the code space stands for the replacement character. -/
def ofNat (number : Nat) : CodePoint :=
  if h : number < 0x110000 then ⟨number, h⟩ else ⟨0xFFFD, by decide⟩

def ofChar (char : Char) : CodePoint := ofNat char.toNat

instance : Coe Char CodePoint := ⟨ofChar⟩

/-- Whether `first ≤ c ≤ last`, both given as characters. -/
def within (c : CodePoint) (first last : Char) : Bool :=
  first.toNat ≤ c.val && c.val ≤ last.toNat

def isSurrogate (c : CodePoint) : Bool :=
  0xD800 ≤ c.val && c.val ≤ 0xDFFF

/-- Whether the code point lies in one of the closed ranges. -/
def isIn (c : CodePoint) (ranges : List (Nat × Nat)) : Bool :=
  ranges.any fun range => range.1 ≤ c.val && c.val ≤ range.2

/-- The value of an ASCII digit. -/
def digit? (c : CodePoint) : Option Nat :=
  if c.within '0' '9' then some (c.val - '0'.toNat) else none

end CodePoint

abbrev Text := List CodePoint

namespace Text

def ofString (string : String) : Text := string.toList.map CodePoint.ofChar

instance : Coe String Text := ⟨ofString⟩

/-- The numeral of `number` in a base up to sixteen, in lower case and without leading zeros. -/
def inBase (base number : Nat) : Text :=
  (Nat.toDigits base number).map CodePoint.ofChar

def ofNat (number : Nat) : Text := inBase 10 number

def ofInt : Int → Text
  | .ofNat number => ofNat number
  | .negSucc number => CodePoint.ofChar '-' :: ofNat (number + 1)

/-- One digit; the argument counts modulo ten. -/
def digit (number : Nat) : CodePoint := .ofNat ('0'.toNat + number % 10)

/-- The last `width` decimal digits of `number`, leading zeros included. -/
def fixed : (width number : Nat) → Text
  | 0, _ => []
  | width + 1, number => fixed width (number / 10) ++ [digit number]

/-- Fills on the left up to `width`. -/
def padLeft (width : Nat) (fill : CodePoint) (text : Text) : Text :=
  List.replicate (width - text.length) fill ++ text

/-- Fills on the right up to `width`. -/
def padRight (width : Nat) (fill : CodePoint) (text : Text) : Text :=
  text ++ List.replicate (width - text.length) fill

/-- A lower-case hexadecimal numeral of at least `width` digits. -/
def hex (width number : Nat) : Text :=
  (inBase 16 number).padLeft width '0'

def joined (separator : Text) (parts : List Text) : Text :=
  (parts.intersperse separator).flatten

/-- The part before the first separator, and the parts that follow one. -/
def parts (separator : CodePoint) : Text → Text × List Text
  | [] => ([], [])
  | c :: rest =>
    let (head, tail) := parts separator rest
    if c = separator then ([], head :: tail) else (c :: head, tail)

/-- Puts `replacement` for every occurrence of one code point. -/
def replacing (text : Text) (old : CodePoint) (replacement : Text) : Text :=
  text.flatMap fun c => if c = old then replacement else [c]

/-- The text without the trailing code points that satisfy `drop`. -/
def dropEndWhile (drop : CodePoint → Bool) (text : Text) : Text :=
  (text.reverse.dropWhile drop).reverse

end Text

end Syslog
