import Syslog.Proofs.Text.Octets

namespace Syslog

/-!
# The grammar of UTF-8, and what the encoder and the decoder make of it

The grammar is that of RFC 3629, octet by octet.  It shuts out longer forms than needed,
surrogates, and numbers beyond the code space, and it does so without reference to the encoder.

Three facts are kept apart.  The encoder produces exactly the octets of the grammar
(`Utf8.wellFormed_iff`).  The decoding machine, fed with what the encoder made of a text,
gives the text back (`Utf8.decodeReplacing_utf8`).  And an octet below 0x80 only ever stands
for itself, so that a delimiter of ASCII cannot turn up inside of another character
(`CodePoint.val_eq_of_mem_utf8`).
-/

namespace Utf8

/-- An octet that continues a character. -/
def IsTail (octet : UInt8) : Prop := 0x80 ≤ octet.toNat ∧ octet.toNat ≤ 0xBF

/-- The octets of one character.  The bounds on the second octet after 0xE0 and 0xF0 shut out
longer forms, that after 0xED the surrogates, that after 0xF4 what lies beyond the code space. -/
inductive Character : Bytes → Prop
  | one {a : UInt8} (ascii : a.toNat ≤ 0x7F) : Character [a]
  | two {a b : UInt8} (low : 0xC2 ≤ a.toNat) (high : a.toNat ≤ 0xDF) (second : IsTail b) :
      Character [a, b]
  | three {a b c : UInt8} (low : 0xE0 ≤ a.toNat) (high : a.toNat ≤ 0xEF) (second : IsTail b)
      (shortest : a.toNat = 0xE0 → 0xA0 ≤ b.toNat) (scalar : a.toNat = 0xED → b.toNat ≤ 0x9F)
      (third : IsTail c) : Character [a, b, c]
  | four {a b c d : UInt8} (low : 0xF0 ≤ a.toNat) (high : a.toNat ≤ 0xF4) (second : IsTail b)
      (shortest : a.toNat = 0xF0 → 0x90 ≤ b.toNat) (inside : a.toNat = 0xF4 → b.toNat ≤ 0x8F)
      (third : IsTail c) (fourth : IsTail d) : Character [a, b, c, d]

/-- Octets that are a sequence of characters. -/
abbrev WellFormed : Bytes → Prop := Repeated Character

end Utf8

namespace CodePoint

/-- The octets of a code point, as numbers.  One case for each length of the encoding. -/
theorem utf8_cases (c : CodePoint) :
    (c.val < 0x80 ∧ c.utf8 = [.ofNat c.val]) ∨
    (0x80 ≤ c.val ∧ c.val < 0x800 ∧
      c.utf8 = [.ofNat (0xC0 + c.val / 64), .ofNat (0x80 + c.val % 64)]) ∨
    (0x800 ≤ c.val ∧ c.val < 0x10000 ∧
      c.utf8 = [.ofNat (0xE0 + c.val / 4096), .ofNat (0x80 + c.val / 64 % 64),
        .ofNat (0x80 + c.val % 64)]) ∨
    (0x10000 ≤ c.val ∧ c.val < 0x110000 ∧
      c.utf8 = [.ofNat (0xF0 + c.val / 262144), .ofNat (0x80 + c.val / 4096 % 64),
        .ofNat (0x80 + c.val / 64 % 64), .ofNat (0x80 + c.val % 64)]) := by
  have inside := c.isLt
  by_cases one : c.val < 0x80
  · exact Or.inl ⟨one, by simp [utf8, one]⟩
  by_cases two : c.val < 0x800
  · exact Or.inr (Or.inl ⟨by omega, two, by simp [utf8, one, two]⟩)
  by_cases three : c.val < 0x10000
  · exact Or.inr (Or.inr (Or.inl ⟨by omega, three, by simp [utf8, one, two, three]⟩))
  · exact Or.inr (Or.inr (Or.inr ⟨by omega, inside, by simp [utf8, one, two, three]⟩))

theorem utf8_of_ascii {c : CodePoint} (ascii : c.val < 0x80) : c.utf8 = [.ofNat c.val] := by
  simp [utf8, ascii]

/-- Beyond ASCII every octet has its highest bit set. -/
theorem le_of_mem_utf8 {c : CodePoint} (beyond : 0x80 ≤ c.val) {octet : UInt8}
    (member : octet ∈ c.utf8) : 0x80 ≤ octet.toNat := by
  have inside := c.isLt
  have atLeast : ∀ {number : Nat}, 0x80 ≤ number → number < 256 →
      octet = UInt8.ofNat number → 0x80 ≤ octet.toNat := by
    intro number low small equal
    rw [equal, toNat_ofNat_octet small]
    exact low
  rcases c.utf8_cases with ⟨ascii, _⟩ | ⟨_, two, octets⟩ | ⟨_, three, octets⟩ | ⟨_, _, octets⟩
  · omega
  all_goals
    rw [octets] at member
    simp only [List.mem_cons, List.not_mem_nil, or_false] at member
  · rcases member with equal | equal <;> exact atLeast (by omega) (by omega) equal
  · rcases member with equal | equal | equal <;> exact atLeast (by omega) (by omega) equal
  · rcases member with equal | equal | equal | equal <;>
      exact atLeast (by omega) (by omega) equal

/-- An octet of ASCII is the whole of its code point. -/
theorem val_eq_of_mem_utf8 {c : CodePoint} {octet : UInt8} (ascii : octet.toNat < 0x80)
    (member : octet ∈ c.utf8) : c.val = octet.toNat := by
  by_cases low : c.val < 0x80
  · rw [utf8_of_ascii low, List.mem_singleton] at member
    rw [member, toNat_ofNat_octet (by omega)]
  · have high := le_of_mem_utf8 (Nat.le_of_not_lt low) member
    omega

theorem utf8_ne_nil (c : CodePoint) : c.utf8 ≠ [] := by
  rcases c.utf8_cases with ⟨_, octets⟩ | ⟨_, _, octets⟩ | ⟨_, _, octets⟩ | ⟨_, _, octets⟩
  all_goals
    rw [octets]
    exact List.cons_ne_nil _ _

theorem isSurrogate_eq_false_iff {c : CodePoint} :
    c.isSurrogate = false ↔ c.val < 0xD800 ∨ 0xDFFF < c.val := by
  simp only [isSurrogate, Bool.and_eq_false_iff, decide_eq_false_iff_not]
  omega

/-- Every code point but a surrogate has octets of the grammar. -/
theorem character_utf8 {c : CodePoint} (scalar : c.isSurrogate = false) :
    Utf8.Character c.utf8 := by
  have outside := isSurrogate_eq_false_iff.mp scalar
  have tail : ∀ number : Nat, Utf8.IsTail (.ofNat (0x80 + number % 64)) := by
    intro number
    rw [Utf8.IsTail, toNat_ofNat_octet (by omega)]
    omega
  rcases c.utf8_cases with ⟨ascii, octets⟩ | ⟨_, two, octets⟩ | ⟨_, three, octets⟩ | ⟨_, _, octets⟩
  · rw [octets]
    exact .one (by rw [toNat_ofNat_octet (by omega)]; omega)
  · rw [octets]
    have firstFits : 0xC0 + c.val / 64 < 256 := by omega
    have first := toNat_ofNat_octet firstFits
    exact .two (by omega) (by omega) (tail _)
  · rw [octets]
    have firstFits : 0xE0 + c.val / 4096 < 256 := by omega
    have first := toNat_ofNat_octet firstFits
    have secondFits : 0x80 + c.val / 64 % 64 < 256 := by omega
    have second := toNat_ofNat_octet secondFits
    exact .three (by omega) (by omega) (tail _) (by omega) (by omega) (tail _)
  · rw [octets]
    have firstFits : 0xF0 + c.val / 262144 < 256 := by omega
    have first := toNat_ofNat_octet firstFits
    have secondFits : 0x80 + c.val / 4096 % 64 < 256 := by omega
    have second := toNat_ofNat_octet secondFits
    exact .four (by omega) (by omega) (tail _) (by omega) (by omega) (tail _) (tail _)

end CodePoint

namespace Utf8

private theorem ofNat_eq_octet (octet : UInt8) {number : Nat} (same : number = octet.toNat) :
    UInt8.ofNat number = octet := by
  rw [same]
  exact UInt8.ofNat_toNat

/-- The octets of the grammar are those of a code point that is no surrogate. -/
theorem Character.exists_codePoint {octets : Bytes} (character : Character octets) :
    ∃ c : CodePoint, c.isSurrogate = false ∧ c.utf8 = octets := by
  cases character with
  | @one a ascii =>
      refine ⟨⟨a.toNat, by omega⟩, ?_, ?_⟩
      · exact CodePoint.isSurrogate_eq_false_iff.mpr (Or.inl (by simp only; omega))
      · rw [CodePoint.utf8_of_ascii (by simp only; omega), UInt8.ofNat_toNat]
  | @two a b low high second =>
      rcases second with ⟨secondLow, secondHigh⟩
      let c : CodePoint := ⟨(a.toNat - 0xC0) * 64 + (b.toNat - 0x80), by omega⟩
      have value : c.val = (a.toNat - 0xC0) * 64 + (b.toNat - 0x80) := rfl
      refine ⟨c, CodePoint.isSurrogate_eq_false_iff.mpr (Or.inl (by omega)), ?_⟩
      rcases c.utf8_cases with ⟨_, _⟩ | ⟨_, _, octets⟩ | ⟨_, _, _⟩ | ⟨_, _, _⟩
      · omega
      · rw [octets, ofNat_eq_octet a (by omega), ofNat_eq_octet b (by omega)]
      · omega
      · omega
  | @three a b c low high second shortest scalar third =>
      rcases second with ⟨secondLow, secondHigh⟩
      rcases third with ⟨thirdLow, thirdHigh⟩
      let point : CodePoint :=
        ⟨(a.toNat - 0xE0) * 4096 + (b.toNat - 0x80) * 64 + (c.toNat - 0x80), by omega⟩
      have value : point.val =
        (a.toNat - 0xE0) * 4096 + (b.toNat - 0x80) * 64 + (c.toNat - 0x80) := rfl
      refine ⟨point, CodePoint.isSurrogate_eq_false_iff.mpr (by omega), ?_⟩
      rcases point.utf8_cases with ⟨_, _⟩ | ⟨_, _, _⟩ | ⟨_, _, octets⟩ | ⟨_, _, _⟩
      · omega
      · omega
      · rw [octets, ofNat_eq_octet a (by omega), ofNat_eq_octet b (by omega),
          ofNat_eq_octet c (by omega)]
      · omega
  | @four a b c d low high second shortest inside third fourth =>
      rcases second with ⟨secondLow, secondHigh⟩
      rcases third with ⟨thirdLow, thirdHigh⟩
      rcases fourth with ⟨fourthLow, fourthHigh⟩
      let point : CodePoint :=
        ⟨(a.toNat - 0xF0) * 262144 + (b.toNat - 0x80) * 4096 + (c.toNat - 0x80) * 64 +
          (d.toNat - 0x80), by omega⟩
      have value : point.val = (a.toNat - 0xF0) * 262144 + (b.toNat - 0x80) * 4096 +
        (c.toNat - 0x80) * 64 + (d.toNat - 0x80) := rfl
      refine ⟨point, CodePoint.isSurrogate_eq_false_iff.mpr (by omega), ?_⟩
      rcases point.utf8_cases with ⟨_, _⟩ | ⟨_, _, _⟩ | ⟨_, _, _⟩ | ⟨_, _, octets⟩
      · omega
      · omega
      · omega
      · rw [octets, ofNat_eq_octet a (by omega), ofNat_eq_octet b (by omega),
          ofNat_eq_octet c (by omega), ofNat_eq_octet d (by omega)]

end Utf8

namespace Text

@[simp] theorem utf8_nil : utf8 [] = [] := rfl

@[simp] theorem utf8_cons (c : CodePoint) (text : Text) :
    utf8 (c :: text) = c.utf8 ++ utf8 text := rfl

@[simp] theorem utf8_append (left right : Text) :
    utf8 (left ++ right) = left.utf8 ++ right.utf8 := List.flatMap_append

@[simp] theorem isEncodable_cons (c : CodePoint) (text : Text) :
    isEncodable (c :: text) = (!c.isSurrogate && isEncodable text) := rfl

/-- A text of ASCII has one octet for each code point. -/
theorem utf8_of_ascii {text : Text} (ascii : ∀ c ∈ text, c.val < 0x80) :
    text.utf8 = text.map fun c => UInt8.ofNat c.val := by
  induction text with
  | nil => rfl
  | cons c rest inductionHypothesis =>
      have tail := inductionHypothesis fun other member =>
        ascii other (List.mem_cons_of_mem c member)
      rw [utf8_cons, CodePoint.utf8_of_ascii (ascii c List.mem_cons_self), tail]
      rfl

theorem isEncodable_of_ascii {text : Text} (ascii : ∀ c ∈ text, c.val < 0x80) :
    text.isEncodable = true := by
  apply List.all_eq_true.mpr
  intro c member
  have low := ascii c member
  rw [CodePoint.isSurrogate_eq_false_iff.mpr (Or.inl (by omega))]
  rfl

theorem isEncodable_iff {text : Text} :
    text.isEncodable = true ↔ ∀ c ∈ text, c.val < 0xD800 ∨ 0xDFFF < c.val := by
  simp only [isEncodable, List.all_eq_true, Bool.not_eq_true', CodePoint.isSurrogate_eq_false_iff]

theorem isEncodable_append (left right : Text) :
    isEncodable (left ++ right) = (left.isEncodable && right.isEncodable) := List.all_append

theorem isEncodable_flatMap {write : α → Text} {items : List α}
    (single : ∀ item ∈ items, (write item).isEncodable = true) :
    isEncodable (items.flatMap write) = true := by
  rw [isEncodable, List.all_flatMap, List.all_eq_true]
  exact single

end Text

namespace Utf8

theorem character_iff (octets : Bytes) :
    Character octets ↔ ∃ c : CodePoint, c.isSurrogate = false ∧ c.utf8 = octets := by
  constructor
  · intro character
    exact character.exists_codePoint
  · rintro ⟨c, scalar, rfl⟩
    exact CodePoint.character_utf8 scalar

/-- The well-formed octets are those that the encoder makes of the texts it accepts. -/
theorem wellFormed_iff {octets : Bytes} :
    WellFormed octets ↔ ∃ text : Text, text.isEncodable = true ∧ text.utf8 = octets := by
  have encodable : ∀ text : Text, text.isEncodable = true ↔ ∀ c ∈ text, c.isSurrogate = false := by
    intro text
    simp only [Text.isEncodable, List.all_eq_true, Bool.not_eq_true']
  simp only [encodable]
  exact repeated_iff character_iff

/-! ## The decoding machine -/

theorem segmentsFrom_cons (pending : Option Pending) (octet : UInt8) (rest : Bytes) :
    segmentsFrom pending (octet :: rest) =
      (feed pending octet).1 ++ segmentsFrom (feed pending octet).2 rest := by
  cases pending <;> rfl

theorem lead?_two {octet : UInt8} (low : 0xC2 ≤ octet.toNat) (high : octet.toNat ≤ 0xDF) :
    lead? octet = some ⟨octet.toNat - 0xC0, 1, 0x80, 0xBF, [octet]⟩ := by
  simp only [lead?, if_pos (And.intro low high)]

theorem lead?_three {octet : UInt8} (low : 0xE0 ≤ octet.toNat) (high : octet.toNat ≤ 0xEF) :
    lead? octet = some ⟨octet.toNat - 0xE0, 2, if octet.toNat = 0xE0 then 0xA0 else 0x80,
      if octet.toNat = 0xED then 0x9F else 0xBF, [octet]⟩ := by
  have longer : ¬(0xC2 ≤ octet.toNat ∧ octet.toNat ≤ 0xDF) := by omega
  simp only [lead?, if_neg longer]
  by_cases shortest : octet.toNat = 0xE0
  · simp [shortest]
  by_cases scalar : octet.toNat = 0xED
  · simp [scalar]
  · simp only [if_neg shortest, if_neg scalar]
    rw [if_pos (by omega)]

theorem lead?_four {octet : UInt8} (low : 0xF0 ≤ octet.toNat) (high : octet.toNat ≤ 0xF4) :
    lead? octet = some ⟨octet.toNat - 0xF0, 3, if octet.toNat = 0xF0 then 0x90 else 0x80,
      if octet.toNat = 0xF4 then 0x8F else 0xBF, [octet]⟩ := by
  have longerThanTwo : ¬(0xC2 ≤ octet.toNat ∧ octet.toNat ≤ 0xDF) := by omega
  have longerThanThree : ¬(0xE1 ≤ octet.toNat ∧ octet.toNat ≤ 0xEF) := by omega
  have notFirst : octet.toNat ≠ 0xE0 := by omega
  have notSurrogate : octet.toNat ≠ 0xED := by omega
  simp only [lead?, if_neg longerThanTwo, if_neg notFirst, if_neg notSurrogate,
    if_neg longerThanThree]
  by_cases shortest : octet.toNat = 0xF0
  · simp [shortest]
  by_cases inside : octet.toNat = 0xF4
  · simp [inside]
  · simp only [if_neg shortest, if_neg inside]
    rw [if_pos (by omega)]

theorem feed_lead {octet : UInt8} {pending : Pending} (beyond : 0x80 ≤ octet.toNat)
    (started : lead? octet = some pending) : feed none octet = ([], some pending) := by
  simp only [feed, begin, if_neg (Nat.not_lt.mpr beyond), started]

/-- The last octet of a code point completes it. -/
theorem feed_last {bits low high : Nat} {taken : Bytes} {octet : UInt8}
    (least : low ≤ octet.toNat) (greatest : octet.toNat ≤ high) :
    feed (some ⟨bits, 1, low, high, taken⟩) octet =
      ([.scalar (.ofNat (bits * 64 + (octet.toNat - 0x80)))], none) := by
  simp only [feed, if_pos (And.intro least greatest), if_true]

theorem feed_next {bits missing low high : Nat} {taken : Bytes} {octet : UInt8}
    (least : low ≤ octet.toNat) (greatest : octet.toNat ≤ high) :
    feed (some ⟨bits, missing + 2, low, high, taken⟩) octet =
      ([], some ⟨bits * 64 + (octet.toNat - 0x80), missing + 1, 0x80, 0xBF,
        taken ++ [octet]⟩) := by
  have more : missing + 2 ≠ 1 := by omega
  simp only [feed, if_pos (And.intro least greatest), if_neg more]
  rfl

private theorem ofNat_eq_codePoint (c : CodePoint) {number : Nat} (same : number = c.val) :
    CodePoint.ofNat number = c := by
  subst same
  simp only [CodePoint.ofNat, dif_pos c.isLt]

/-- Between code points, the machine reads the octets of the next one as that code point. -/
theorem segmentsFrom_utf8_append {c : CodePoint} (scalar : c.isSurrogate = false)
    (rest : Bytes) :
    segmentsFrom none (c.utf8 ++ rest) = .scalar c :: segmentsFrom none rest := by
  have outside := CodePoint.isSurrogate_eq_false_iff.mp scalar
  have tail : ∀ number : Nat, (UInt8.ofNat (0x80 + number % 64)).toNat = 0x80 + number % 64 :=
    fun number => toNat_ofNat_octet (by omega)
  rcases c.utf8_cases with ⟨ascii, octets⟩ | ⟨_, two, octets⟩ | ⟨_, three, octets⟩ |
    ⟨_, four, octets⟩
  all_goals
    rw [octets]
    simp only [List.cons_append, List.nil_append, segmentsFrom_cons]
  · have firstFits : c.val < 256 := by omega
    have first := toNat_ofNat_octet firstFits
    simp only [feed, begin, first, if_pos ascii, List.cons_append, List.nil_append]
    rw [ofNat_eq_codePoint c rfl]
  · have firstFits : 0xC0 + c.val / 64 < 256 := by omega
    have first := toNat_ofNat_octet firstFits
    rw [feed_lead (by omega) (lead?_two (by omega) (by omega)),
      feed_last (by rw [tail]; omega) (by rw [tail]; omega), first, tail,
      ofNat_eq_codePoint c (by omega)]
    rfl
  · have firstFits : 0xE0 + c.val / 4096 < 256 := by omega
    have first := toNat_ofNat_octet firstFits
    rw [feed_lead (by omega) (lead?_three (by omega) (by omega)),
      feed_next (by rw [first, tail]; split <;> omega)
        (by rw [first, tail]; split <;> omega),
      feed_last (by rw [tail]; omega) (by rw [tail]; omega), first, tail, tail,
      ofNat_eq_codePoint c (by omega)]
    rfl
  · have firstFits : 0xF0 + c.val / 262144 < 256 := by omega
    have first := toNat_ofNat_octet firstFits
    rw [feed_lead (by omega) (lead?_four (by omega) (by omega)),
      feed_next (by rw [first, tail]; split <;> omega)
        (by rw [first, tail]; split <;> omega),
      feed_next (by rw [tail]; omega) (by rw [tail]; omega),
      feed_last (by rw [tail]; omega) (by rw [tail]; omega), first, tail, tail, tail,
      ofNat_eq_codePoint c (by omega)]
    rfl

theorem segments_utf8 {text : Text} (encodable : text.isEncodable = true) :
    segments text.utf8 = text.map Segment.scalar := by
  induction text with
  | nil => rfl
  | cons c rest inductionHypothesis =>
      rw [Text.isEncodable_cons, Bool.and_eq_true, Bool.not_eq_true'] at encodable
      rw [segments, Text.utf8_cons, segmentsFrom_utf8_append encodable.1]
      exact congrArg (Segment.scalar c :: ·) (inductionHypothesis encodable.2)

/-- What the encoder made of a text is read back as that text. -/
theorem decodeReplacing_utf8 {text : Text} (encodable : text.isEncodable = true) :
    decodeReplacing text.utf8 = text := by
  rw [decodeReplacing, segments_utf8 encodable, List.map_map]
  exact List.map_id text

end Utf8

end Syslog
