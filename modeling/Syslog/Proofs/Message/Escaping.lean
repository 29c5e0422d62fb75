import Syslog.Proofs.Message.Octets

namespace Syslog

/-!
# Where a parameter value ends

Nothing but the quote behind a parameter value says where it ends, and the value may itself hold
quotes, brackets and backslashes, in any order and number.  A scanner that runs from the left and
takes every backslash together with the character behind it needs no more than that: it passes an
escaped value as a whole, stops at the quote that has been put behind it, and knows the value by
then (`Text.escaped_is_self_delimiting`).

What carries the proof is that the scanner is between two characters of the value whenever the
escape of one of them has been passed (`ValueScanner.run_escape`).  So the value can be passed
character by character, and nothing depends on what stands behind it.
-/

namespace Text

/-- A backslash in front of every occurrence of a character that needs one. -/
def substituted : Text → Text
  | [] => []
  | c :: rest =>
    if c.isEscaped then CodePoint.ofChar '\\' :: c :: substituted rest else c :: substituted rest

/-- Escaping on two paths: a text in which nothing needs an escape is handed back untouched. -/
def escapedOnDemand (text : Text) : Text :=
  if text.any CodePoint.isEscaped then text.substituted else text

theorem escaped_cons (c : CodePoint) (rest : Text) :
    escaped (c :: rest) = (if c.isEscaped then [.ofChar '\\', c] else [c]) ++ rest.escaped :=
  List.flatMap_cons

theorem escaped_append (left right : Text) :
    (left ++ right).escaped = left.escaped ++ right.escaped :=
  List.flatMap_append

theorem substituted_eq_escaped (text : Text) : text.substituted = text.escaped := by
  induction text with
  | nil => rfl
  | cons c rest inductionHypothesis =>
      rw [substituted, escaped_cons, inductionHypothesis]
      split <;> rfl

/-- A text in which nothing needs an escape is not touched by the substitution either. -/
theorem substituted_of_plain {text : Text} (plain : text.any CodePoint.isEscaped = false) :
    text.substituted = text := by
  induction text with
  | nil => rfl
  | cons c rest inductionHypothesis =>
      rw [List.any_cons, Bool.or_eq_false_iff] at plain
      rw [substituted, plain.1, inductionHypothesis plain.2]
      rfl

theorem escapedOnDemand_eq_escaped (text : Text) : text.escapedOnDemand = text.escaped := by
  rw [escapedOnDemand, ← substituted_eq_escaped]
  split
  · rfl
  · next plain => exact (substituted_of_plain (Bool.eq_false_iff.mpr plain)).symm

end Text

/-- A scanner inside of a parameter value. -/
structure ValueScanner where
  /-- What has been read, without the backslashes that escape. -/
  content : Text := []
  /-- How many characters have been passed. -/
  place : Nat := 0
  /-- Whether the last of them is a backslash that escapes. -/
  marked : Bool := false
  /-- The places of the brackets that have been passed and were not escaped. -/
  brackets : List Nat := []
deriving DecidableEq

namespace ValueScanner

/-- Passes one character that does not end the value. -/
def pass (scanner : ValueScanner) (c : CodePoint) : ValueScanner :=
  if scanner.marked then
    { scanner with
      content := scanner.content ++ [c]
      place := scanner.place + 1
      marked := false }
  else if c = .ofChar '\\' then { scanner with place := scanner.place + 1, marked := true }
  else
    { scanner with
      content := scanner.content ++ [c]
      place := scanner.place + 1
      brackets := scanner.brackets ++ if c = .ofChar ']' then [scanner.place] else [] }

/-- Runs up to the first quote that is not escaped, and gives back what stands behind it. -/
def run (scanner : ValueScanner) : Text → Option (ValueScanner × Text)
  | [] => none
  | c :: rest =>
    if scanner.marked = false ∧ c = .ofChar '"' then some (scanner, rest)
    else (scanner.pass c).run rest

/-- The scanner behind the escaped form of a text. -/
def behind (scanner : ValueScanner) (text : Text) : ValueScanner :=
  { scanner with
    content := scanner.content ++ text
    place := scanner.place + text.escaped.length }

variable {scanner : ValueScanner}

/-- The escape of one character is passed as a whole. -/
theorem run_escape (between : scanner.marked = false) (c : CodePoint) (rest : Text) :
    scanner.run ((if c.isEscaped then [CodePoint.ofChar '\\', c] else [c]) ++ rest) =
      (scanner.behind [c]).run rest := by
  rcases scanner with ⟨content, place, marked, brackets⟩
  cases between
  cases special : c.isEscaped with
  | true =>
      have mark : CodePoint.ofChar '\\' ≠ .ofChar '"' := by decide
      simp [run, pass, behind, Text.escaped, special, mark]
  | false =>
      -- of the three characters that mean something to the scanner, it is none
      have others := mt CodePoint.isEscaped_iff.mpr (ne_true_of_eq_false special)
      simp only [not_or] at others
      simp [run, pass, behind, Text.escaped, special, others]

theorem behind_behind (scanner : ValueScanner) (first second : Text) :
    (scanner.behind first).behind second = scanner.behind (first ++ second) := by
  simp only [behind, Text.escaped_append, List.append_assoc, List.length_append, Nat.add_assoc]

/-- So is the escaped form of a whole text, character by character. -/
theorem run_escaped (between : scanner.marked = false) (text rest : Text) :
    scanner.run (text.escaped ++ rest) = (scanner.behind text).run rest := by
  induction text generalizing scanner with
  | nil =>
      rw [behind, List.append_nil]
      rfl
  | cons c text inductionHypothesis =>
      have betweenToo : (scanner.behind [c]).marked = false := between
      rw [Text.escaped_cons, List.append_assoc, run_escape between,
        inductionHypothesis betweenToo, behind_behind, List.singleton_append]

theorem run_quote (between : scanner.marked = false) (rest : Text) :
    scanner.run (.ofChar '"' :: rest) = some (scanner, rest) :=
  if_pos ⟨between, rfl⟩

end ValueScanner

namespace Text

/-- Whatever stands behind the quote that follows an escaped value, a scanner stops at exactly this
quote, has met no bracket that is not escaped, and has read the value.  Escaping goes character by
character, so that it does not matter where a text is cut, and whether a text without special
characters is handed back or run through the substitution. -/
theorem escaped_is_self_delimiting :
    (∀ text rest : Text, ValueScanner.run {} (text.escaped ++ .ofChar '"' :: rest) =
      some ({ content := text, place := text.escaped.length, brackets := [] }, rest)) ∧
    (∀ left right : Text, (left ++ right).escaped = left.escaped ++ right.escaped) ∧
    ∀ text : Text, text.escapedOnDemand = text.escaped ∧ text.substituted = text.escaped := by
  refine ⟨fun text rest => ?_, escaped_append, fun text =>
    ⟨escapedOnDemand_eq_escaped text, substituted_eq_escaped text⟩⟩
  rw [ValueScanner.run_escaped rfl, ValueScanner.run_quote rfl, ValueScanner.behind]
  simp only [List.nil_append, Nat.zero_add]

/-- Without the escapes the same scanner stops early, and meets a bracket on the way. -/
example :
    ValueScanner.run {} (ofString "a]b\"c" ++ ofString "\" d") =
      some (⟨ofString "a]b", 3, false, [1]⟩, ofString "c\" d") := by
  decide

end Text

end Syslog
