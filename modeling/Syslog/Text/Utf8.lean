import Syslog.Text.Basic

namespace Syslog

/-!
UTF-8, in both directions.

Encoding fails on a surrogate and names the first run of them.  Decoding never fails: a
machine that is fed one octet at a time cuts the octets into *segments*, each a code point in
its shortest form or a malformed stretch, and the readers differ only in what they make of a
malformed stretch.  A stretch ends before the first octet that cannot continue it, so that
octet gets a chance of its own.
-/

abbrev Bytes := List UInt8

/-- The first run of surrogates in a text: where it starts, how it begins, how long it is. -/
structure SurrogateRun where
  start : Nat
  first : CodePoint
  length : Nat
deriving DecidableEq

/-- The octets of one code point; for a surrogate they are no valid UTF-8. -/
def CodePoint.utf8 (c : CodePoint) : Bytes :=
  let tail (unit : Nat) : UInt8 := .ofNat (0x80 + c.val / unit % 64)
  if c.val < 0x80 then [.ofNat c.val]
  else if c.val < 0x800 then [.ofNat (0xC0 + c.val / 64), tail 1]
  else if c.val < 0x10000 then [.ofNat (0xE0 + c.val / 4096), tail 64, tail 1]
  else [.ofNat (0xF0 + c.val / 262144), tail 4096, tail 64, tail 1]

namespace Text

def surrogateRun? (text : Text) : Option SurrogateRun :=
  match text.dropWhile (!·.isSurrogate) with
  | [] => none
  | first :: rest =>
    some {
      start := (text.takeWhile (!·.isSurrogate)).length
      first
      length := 1 + (rest.takeWhile (·.isSurrogate)).length }

/-- Whether the text has a UTF-8 form. -/
def isEncodable (text : Text) : Bool := text.all (!·.isSurrogate)

/-- The octets of a text; meant for encodable ones. -/
def utf8 (text : Text) : Bytes := text.flatMap CodePoint.utf8

def encode (text : Text) : Except SurrogateRun Bytes :=
  match text.surrogateRun? with
  | some run => .error run
  | none => .ok text.utf8

end Text

namespace Utf8

/-- A maximal stretch of octets that is read as one. -/
inductive Segment
  | scalar (c : CodePoint)
  | malformed (octets : Bytes)

/-- A code point that has been started: the bits so far, how many octets are still to come,
the bounds on the next of them, and the octets taken. -/
structure Pending where
  bits : Nat
  missing : Nat
  low : Nat
  high : Nat
  taken : Bytes

/--
What a first octet begins.  The bounds on the second octet shut out longer forms than needed,
surrogates, and numbers beyond the code space.
-/
def lead? (octet : UInt8) : Option Pending :=
  let b := octet.toNat
  if 0xC2 ≤ b ∧ b ≤ 0xDF then some ⟨b - 0xC0, 1, 0x80, 0xBF, [octet]⟩
  else if b = 0xE0 then some ⟨0, 2, 0xA0, 0xBF, [octet]⟩
  else if b = 0xED then some ⟨0xD, 2, 0x80, 0x9F, [octet]⟩
  else if 0xE1 ≤ b ∧ b ≤ 0xEF then some ⟨b - 0xE0, 2, 0x80, 0xBF, [octet]⟩
  else if b = 0xF0 then some ⟨0, 3, 0x90, 0xBF, [octet]⟩
  else if b = 0xF4 then some ⟨4, 3, 0x80, 0x8F, [octet]⟩
  else if 0xF1 ≤ b ∧ b ≤ 0xF3 then some ⟨b - 0xF0, 3, 0x80, 0xBF, [octet]⟩
  else none

/-- An octet outside of any started code point. -/
def begin (octet : UInt8) : List Segment × Option Pending :=
  if octet.toNat < 0x80 then ([.scalar (.ofNat octet.toNat)], none)
  else
    match lead? octet with
    | some pending => ([], some pending)
    | none => ([.malformed [octet]], none)

/-- One octet; the segments it completes and the code point it leaves started. -/
def feed (pending : Option Pending) (octet : UInt8) : List Segment × Option Pending :=
  match pending with
  | none => begin octet
  | some started =>
    let b := octet.toNat
    if started.low ≤ b ∧ b ≤ started.high then
      let bits := started.bits * 64 + (b - 0x80)
      if started.missing = 1 then ([.scalar (.ofNat bits)], none)
      else ([], some ⟨bits, started.missing - 1, 0x80, 0xBF, started.taken ++ [octet]⟩)
    else
      let (segments, next) := begin octet
      (.malformed started.taken :: segments, next)

def segmentsFrom : Option Pending → Bytes → List Segment
  | none, [] => []
  | some started, [] => [.malformed started.taken]
  | pending, octet :: rest =>
    let (segments, next) := feed pending octet
    segments ++ segmentsFrom next rest

def segments (octets : Bytes) : List Segment := segmentsFrom none octets

/-- Reads a malformed stretch as one replacement character. -/
def decodeReplacing (octets : Bytes) : Text :=
  (segments octets).map fun
    | .scalar c => c
    | .malformed _ => .ofNat 0xFFFD

/-- Reads each octet of a malformed stretch as the surrogate U+DC00 plus the octet. -/
def decodeEscaping (octets : Bytes) : Text :=
  (segments octets).flatMap fun
    | .scalar c => [c]
    | .malformed stretch => stretch.map fun octet => .ofNat (0xDC00 + octet.toNat)

end Utf8

end Syslog
