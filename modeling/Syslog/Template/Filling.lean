import Syslog.Template.Conversion
import Syslog.Value.Same

namespace Syslog

/-!
Filling templates in.

The arguments are several values by position, or one value.  One value that consists of parts
can also be used by key, and then need not be used at all.  All values are converted first;
then they are set into their widths.
-/

namespace Template

/-- The arguments that are still to be used; by key it is the value found last. -/
structure Supply where
  values : List Value
  container : Option Value

/-- Whether a value has parts that can be asked for in a template of the given form. -/
def hasParts (form : TemplateForm) : Value → Bool
  | .dict _ => true
  | .list _ => true
  | .octets .view _ => true
  | .octets _ _ => form == .text
  | _ => false

/-- A tuple stands for its values, and any other value for itself. -/
def Supply.ofArguments (form : TemplateForm) : Value → Supply
  | .tuple values => ⟨values, none⟩
  | value => ⟨[value], if hasParts form value then some value else none⟩

def Supply.next (supply : Supply) : Except TemplateFault (Value × Supply) :=
  match supply.values with
  | [] => .error .notEnoughArguments
  | value :: rest => .ok (value, { supply with values := rest })

/-- A key as a value: a text, or octets if the template is. -/
def keyValue : TemplateForm → Text → Value
  | .text, key => .text key
  | .octets, key => .octets .fixed (key.map fun c => UInt8.ofNat c.val)

/-- The part of a value under a key; only dictionaries have such parts. -/
def part (key : Value) : Value → Except TemplateFault Value
  | .dict entries =>
    match Entries.get? entries key with
    | some value => .ok value
    | none => .error (.missingKey key)
  | container => .error (.keyKind container key)

def Supply.select (form : TemplateForm) (supply : Supply) :
    DirectiveKey → Except TemplateFault Supply
  | .absent => .ok supply
  | key =>
    match supply.container, key with
    | none, _ => .error .mappingRequired
    | some container, .named key => do
      let value ← part (keyValue form key) container
      return { supply with values := [value] }
    | some _, _ => .error .incompleteKey

/--
A measure as an integer, if there is one; it must fit into a machine word.  The least integer
that does has no opposite, and counts as zero.
-/
def Supply.measure (supply : Supply) (limit : Nat) (word : Text) (tooBig : TemplateFault) :
    Measure → Except TemplateFault (Option Int × Supply)
  | .absent => .ok (none, supply)
  | .number value => if value ≤ limit then .ok (some value, supply) else .error tooBig
  | .star => do
    let (value, rest) ← supply.next
    match value.integral? with
    | some number =>
      if number.natAbs ≤ limit then return (some number, rest)
      else if number = Int.negSucc limit then return (some 0, rest)
      else .error (.integerTooLarge word)
    | none => .error .starInteger

/-- The greatest width that there is room for. -/
def roomLimit : Nat := Nat.pow 10 10

/-- A converted value with the width that it goes into. -/
structure Placed where
  directive : Directive
  left : Bool
  width : Nat
  converted : Converted

/-- Fills up to the width: on the right, or on the left between the sign and the digits if zeros
are asked for, or on the left of all. -/
def Placed.text (placed : Placed) : Text :=
  let converted := placed.converted
  let negative := converted.isNumber && converted.content.head? == some (.ofChar '-')
  let content := if negative then converted.content.drop 1 else converted.content
  let sign : Text :=
    if negative then "-"
    else if converted.isNumber && placed.directive.sign then "+"
    else if converted.isNumber && placed.directive.blank then " "
    else []
  let front := sign ++ converted.mark
  let missing := placed.width - (front.length + content.length)
  if placed.left then front ++ content ++ List.replicate missing (.ofChar ' ')
  else if converted.isNumber && placed.directive.zero then
    front ++ List.replicate missing (.ofChar '0') ++ content
  else List.replicate missing (.ofChar ' ') ++ front ++ content

/-- Takes what one directive asks for from the arguments. -/
def place (form : TemplateForm) (supply : Supply) (directive : Directive) :
    Except TemplateFault (Placed × Supply) := do
  let supply ← supply.select form directive.key
  let (width, supply) ← supply.measure (Nat.pow 2 63 - 1) "ssize_t" .widthTooBig directive.width
  let (precision, supply) ←
    supply.measure (Nat.pow 2 31 - 1) "int" (.precisionTooBig form) directive.precision
  match directive.conversion with
  | none => .error .incomplete
  | some conversion =>
    let (value, supply) ← supply.next
    let converted ← convert form directive (precision.map Int.toNat) conversion value
    let width := width.getD 0
    if roomLimit < width.natAbs then .error .outOfMemory
    else
      return ({ directive, converted
                left := directive.left || width < 0
                width := width.natAbs }, supply)

/-- A piece of the result. -/
inductive Filled
  | literal (text : Text)
  | placed (placed : Placed)

def Filled.text : Filled → Text
  | .literal text => text
  | .placed found => found.text

/-- Fills in the pieces in turn; what is left over of values by position is too much. -/
def fillPieces (form : TemplateForm) (supply : Supply) :
    List TemplatePiece → Except TemplateFault (List Filled)
  | [] =>
    if supply.container.isNone && !supply.values.isEmpty then .error (.argumentsLeftOver form)
    else .ok []
  | .literal text :: rest => do return .literal text :: (← fillPieces form supply rest)
  | .directive directive :: rest => do
    let (found, supply) ← place form supply directive
    return .placed found :: (← fillPieces form supply rest)

/-- Fills a template in with one value, or with all values of a tuple. -/
def fill (form : TemplateForm) (template : Text) (arguments : Value) :
    Except TemplateFault Text := do
  let filled ← fillPieces form (.ofArguments form arguments) (pieces template)
  return filled.flatMap Filled.text

/-- Octets as a template; the result consists of octets again. -/
def fillOctets (template : Bytes) (arguments : Value) : Except TemplateFault Bytes := do
  let filled ← fill .octets template.characters arguments
  return filled.map fun c => UInt8.ofNat c.val

end Template

end Syslog
