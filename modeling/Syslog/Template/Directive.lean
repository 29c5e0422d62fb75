import Syslog.Text.Basic

namespace Syslog

/-!
Templates with percent directives, and how they are cut into pieces.

A directive has the form

    %[(key)][flags][width][.precision][h|l|L]conversion

where width and precision may be taken from the arguments by a star; two percent signs in a
row stand for one.  A directive that breaks off is a piece too, so that whatever is wrong with
a template comes to light in the order in which the pieces are filled in.
-/

/-- A width or a precision: none, a number, or the next argument. -/
inductive Measure
  | absent
  | number (value : Nat)
  | star
deriving DecidableEq

inductive DirectiveKey
  | absent
  | named (key : Text)
  | unfinished
deriving DecidableEq

/-- A directive; without a conversion the template ended before one. -/
structure Directive where
  key : DirectiveKey := .absent
  left : Bool
  sign : Bool
  blank : Bool
  full : Bool
  zero : Bool
  width : Measure
  precision : Measure
  conversion : Option CodePoint
  /-- Whether the conversion stands right behind a digit of the width or the precision. -/
  afterDigit : Bool
  /-- The place of the conversion in the template. -/
  index : Nat
deriving DecidableEq

inductive TemplatePiece
  | literal (text : Text)
  | directive (directive : Directive)
deriving DecidableEq

namespace Template

/-- The key up to the parenthesis that closes it; parentheses inside of it are balanced. -/
def key? : (depth : Nat) → Text → Option (Text × Text)
  | _, [] => none
  | depth, c :: rest =>
    if c = .ofChar ')' then
      match depth with
      | 0 => some ([], rest)
      | outer + 1 => (key? outer rest).map fun (key, after) => (c :: key, after)
    else
      let depth := if c = .ofChar '(' then depth + 1 else depth
      (key? depth rest).map fun (key, after) => (c :: key, after)

def isFlag (c : CodePoint) : Bool :=
  (Text.ofString "-+ #0").contains c

def isDigit (c : CodePoint) : Bool := c.digit?.isSome

def numeral (digits : Text) : Nat :=
  digits.foldl (fun value c => value * 10 + (c.digit?.getD 0)) 0

/-- A star or digits, if one of them comes next. -/
def measure (text : Text) : Measure × Text :=
  if text.head? = some (.ofChar '*') then (.star, text.drop 1)
  else
    let (digits, rest) := text.span isDigit
    if digits.isEmpty then (.absent, rest) else (.number (numeral digits), rest)

/-- A point makes a precision of zero, even if nothing follows it. -/
def precision (text : Text) : Measure × Text :=
  if text.head? = some (.ofChar '.') then
    match measure (text.drop 1) with
    | (.absent, rest) => (.number 0, rest)
    | found => found
  else (.absent, text)

/-- The directive behind a percent sign, in a template of `total` characters. -/
def directive (total : Nat) (text : Text) : Directive × Text :=
  let (key, text) :=
    if text.head? = some (.ofChar '(') then
      match key? 0 (text.drop 1) with
      | some (key, rest) => (DirectiveKey.named key, rest)
      | none => (.unfinished, [])
    else (.absent, text)
  let (flags, measures) := text.span isFlag
  let (width, text) := measure measures
  let (precision, text) := precision text
  let isLength : Bool :=
    (text.head?.map fun c => (Text.ofString "hlL").contains c).getD false
  let text := if isLength then text.drop 1 else text
  let before := (measures.take (measures.length - text.length)).getLast?
  ({ key
     left := flags.contains (.ofChar '-')
     sign := flags.contains (.ofChar '+')
     blank := flags.contains (.ofChar ' ')
     full := flags.contains (.ofChar '#')
     zero := flags.contains (.ofChar '0')
     width
     precision
     conversion := text.head?
     afterDigit := (before.map isDigit).getD false
     index := total - text.length }, text.drop 1)

/--
Cuts a template.  A piece that follows a percent sign takes that sign at least, so the length
of the template is enough for `fuel`.
-/
def piecesFrom (total : Nat) : (fuel : Nat) → Text → List TemplatePiece
  | 0, text => [.literal text]
  | fuel + 1, text =>
    let (literal, rest) := text.span (· != .ofChar '%')
    .literal literal ::
      match rest with
      | [] => []
      | _ :: rest =>
        if rest.head? = some (.ofChar '%') then
          .literal ['%'] :: piecesFrom total fuel (rest.drop 1)
        else
          let (found, rest) := directive total rest
          .directive found :: piecesFrom total fuel rest

def pieces (template : Text) : List TemplatePiece :=
  piecesFrom template.length template.length template

end Template

end Syslog
