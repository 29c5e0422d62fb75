import Syslog.Number.Numeral
import Syslog.Template.Directive
import Syslog.Template.Fault

namespace Syslog

/-!
The conversion of one value by one directive.

A conversion makes digits, or characters, of a value; how they are set into the width is a
matter of its own.  In templates that are octets, the content of values that are octets goes in
as it is, and every octet counts as the character of the same number.
-/

/-- What a converted value consists of: perhaps a mark, and the rest, perhaps with a sign. -/
structure Converted where
  isNumber : Bool := false
  mark : Text := []
  content : Text

namespace Template

/-- The integer of a number, cut off towards zero. -/
def truncated (conversion : CodePoint) (value : Value) : Except TemplateFault Int :=
  match value with
  | .float .nan => .error .notANumberToInteger
  | .float (.infinite _) => .error .infinityToInteger
  | .float (.finite negative magnitude) =>
    let whole : Int := magnitude.numerator / magnitude.denominator
    .ok (if negative then -whole else whole)
  | value =>
    match value.integral? with
    | some number => .ok number
    | none => .error (.realRequired conversion value.operandName)

/-- The floating-point number that a number is, or the nearest to it. -/
def floating (form : TemplateForm) (value : Value) : Except TemplateFault Binary64 :=
  match value with
  | .float number => .ok number
  | value =>
    match value.integral? with
    | none => .error (.floatRequired form value.operandName)
    | some number =>
      match Binary64.ofRatio (number < 0) number.natAbs 1, form with
      | .infinite _, .text => .error .integerToFloat
      | .infinite _, .octets => .error (.floatRequired form value.operandName)
      | found, _ => .ok found

def float (layout : Magnitude → Text) : Binary64 → Text
  | .nan => "nan"
  | .infinite true => "-inf"
  | .infinite false => "inf"
  | .finite true magnitude => CodePoint.ofChar '-' :: layout magnitude
  | .finite false magnitude => layout magnitude

/-- A single character: one of a text, or by its number. -/
def character (value : Value) : Except TemplateFault CodePoint :=
  match value with
  | .text [c] => .ok c
  | value =>
    match value.integral? with
    | none => .error .characterRequired
    | some number =>
      if h : 0 ≤ number ∧ number.toNat < 0x110000 then .ok ⟨number.toNat, h.2⟩
      else .error .characterRange

/-- A single octet: one of octets that are not a view, or by its number. -/
def singleOctet (value : Value) : Except TemplateFault CodePoint :=
  match value with
  | .octets .fixed [octet] => .ok (.ofNat octet.toNat)
  | .octets .growable [octet] => .ok (.ofNat octet.toNat)
  | value =>
    match value.integral? with
    | none => .error .octetRequired
    | some number =>
      if 0 ≤ number ∧ number < 256 then .ok (.ofNat number.toNat) else .error .octetRange

/-- The greatest precision of an integer. -/
def precisionLimit : Nat := Nat.pow 2 31 - 4

/-- An integer in a base with enough digits, behind the mark of the base. -/
def integer (base digits : Nat) (mark : Text) (number : Int) : Except TemplateFault Converted :=
  if digits ≤ precisionLimit then
    .ok { isNumber := true, mark, content := Numeral.integer base [] digits number }
  else .error .precisionTooLarge

/-- An integer in decimal, which must not have too many digits of its own either. -/
def decimal (digits : Nat) (number : Int) : Except TemplateFault Converted := do
  let converted ← integer 10 digits [] number
  match WordsFault.ofInteger? number with
  | some fault => .error (.words fault)
  | none => return converted

/-- A text, cut off at the precision. -/
def ofText (precision : Option Nat) (text : Text) : Converted where
  content := match precision with
    | some limit => text.take limit
    | none => text

/-- Small ASCII letters as capitals. -/
def capitals (text : Text) : Text :=
  text.map fun c => if c.within 'a' 'z' then .ofNat (c.val - 32) else c

def isOneOf (letters : String) (c : CodePoint) : Bool := (Text.ofString letters).contains c

/-- The digits after the point of scientific notation; the greatest number of them means none. -/
def scientificPlaces (precision : Option Nat) : Nat :=
  match precision with
  | none => 6
  | some places => if places = Nat.pow 2 31 - 1 then 0 else places

/-- The conversion to digits, for the letters that ask for a number. -/
def numeric? (form : TemplateForm) (directive : Directive) (precision : Option Nat)
    (conversion : CodePoint) (value : Value) : Option (Except TemplateFault Converted) :=
  let digits := precision.getD 0
  let places := precision.getD 6
  let inBase (base : Nat) (mark : Text) : Except TemplateFault Converted :=
    match value.integral? with
    | none => .error (.integerRequired conversion value.operandName)
    | some number => integer base digits (if directive.full then mark else []) number
  let floatAs (layout : Magnitude → Text) : Except TemplateFault Converted :=
    (floating form value).map fun number => { isNumber := true, content := float layout number }
  let converted : Option (Except TemplateFault Converted) :=
    if isOneOf "diu" conversion then
      some ((truncated conversion value).bind (decimal digits))
    else if isOneOf "o" conversion then some (inBase 8 "0o")
    else if isOneOf "xX" conversion then some (inBase 16 "0x")
    else if isOneOf "eE" conversion then
      some (floatAs (Numeral.scientific (scientificPlaces precision) directive.full))
    else if isOneOf "fF" conversion then
      some (floatAs (Numeral.fixedPlaces places directive.full))
    else if isOneOf "gG" conversion then some (floatAs (Numeral.general places directive.full))
    else none
  if isOneOf "XEFG" conversion then
    converted.map fun result => result.map fun found =>
      { found with mark := capitals found.mark, content := capitals found.content }
  else converted

/-- What is reported for a letter that is no conversion. -/
def unsupported (form : TemplateForm) (directive : Directive) (conversion : CodePoint) :
    TemplateFault :=
  match form with
  | .text => .unsupported form conversion directive.index
  | .octets =>
    if conversion.val < 0x80 || directive.afterDigit then
      .unsupported form conversion directive.index
    else .conversionRange

/-- A value in words, cut off at the precision. -/
def inWords (form : Value → Text) (precision : Option Nat) (value : Value) :
    Except TemplateFault Converted :=
  ((value.inWords form).mapError .words).map (ofText precision)

/-- The quoted form in ASCII. -/
def asciiQuoted (value : Value) : Text := value.quoted.asciiEscaped

def convertToText (precision : Option Nat) (conversion : CodePoint) (value : Value) :
    Option (Except TemplateFault Converted) :=
  if isOneOf "s" conversion then some (inWords Value.shown precision value)
  else if isOneOf "r" conversion then some (inWords Value.quoted precision value)
  else if isOneOf "a" conversion then some (inWords asciiQuoted precision value)
  else if isOneOf "c" conversion then
    some ((character value).map fun c => { content := [c] })
  else none

def convertToOctets (precision : Option Nat) (conversion : CodePoint) (value : Value) :
    Option (Except TemplateFault Converted) :=
  if isOneOf "sb" conversion then
    some (match value.octets? with
      | some content => .ok (ofText precision content.characters)
      | none => .error (.octetsRequired value.operandName))
  else if isOneOf "ra" conversion then some (inWords asciiQuoted precision value)
  else if isOneOf "c" conversion then
    some ((singleOctet value).map fun c => { content := [c] })
  else none

/-- The letter by which a conversion is known; in octets the two for integers are one. -/
def knownAs : TemplateForm → CodePoint → CodePoint
  | .text, conversion => conversion
  | .octets, conversion => if conversion = .ofChar 'i' then 'd' else conversion

def convert (form : TemplateForm) (directive : Directive) (precision : Option Nat)
    (conversion : CodePoint) (value : Value) : Except TemplateFault Converted :=
  let conversion := knownAs form conversion
  let characters :=
    match form with
    | .text => convertToText precision conversion value
    | .octets => convertToOctets precision conversion value
  (characters.or (numeric? form directive precision conversion value)).getD
    (.error (unsupported form directive conversion))

end Template

end Syslog
