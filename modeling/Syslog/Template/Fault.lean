import Syslog.Value.Words

namespace Syslog

/-!
What can go wrong when a template is filled in.

Templates are texts or octets, and both have their own rules for a few conversions, so some
causes know the form of the template that they arose in.
-/

/-- What a template consists of, and with it what filling it in makes. -/
inductive TemplateForm
  | text
  | octets
deriving DecidableEq

inductive TemplateFault
  | notEnoughArguments
  | argumentsLeftOver (form : TemplateForm)
  /-- A key where the arguments have nothing to look it up in. -/
  | mappingRequired
  | missingKey (key : Value)
  /-- A key where the arguments have parts, but not by such keys. -/
  | keyKind (container key : Value)
  | starInteger
  /-- A text of one character or an integer is needed. -/
  | characterRequired
  | characterRange
  /-- A single octet or an integer is needed. -/
  | octetRequired
  | octetRange
  | octetsRequired (kind : Text)
  | realRequired (conversion : CodePoint) (kind : Text)
  | integerRequired (conversion : CodePoint) (kind : Text)
  | floatRequired (form : TemplateForm) (kind : Text)
  | notANumberToInteger
  | infinityToInteger
  | integerTooLarge (target : Text)
  | integerToFloat
  | incomplete
  | incompleteKey
  | widthTooBig
  /-- A precision that cannot be read. -/
  | precisionTooBig (form : TemplateForm)
  /-- More digits than an integer can be given. -/
  | precisionTooLarge
  | unsupported (form : TemplateForm) (conversion : CodePoint) (index : Nat)
  /-- No conversion, and nothing that could be shown as a character. -/
  | conversionRange
  /-- The result would not fit anywhere. -/
  | outOfMemory
  /-- A value that cannot be put into words. -/
  | words (fault : WordsFault)

/-- The arguments, as messages name them by what is made of them. -/
def TemplateForm.productName : TemplateForm → Text
  | .text => "string"
  | .octets => "bytes"

end Syslog
