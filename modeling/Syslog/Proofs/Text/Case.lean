import Mathlib.Data.List.Chain
import Syslog.Text.Case

namespace Syslog

/-!
# Lower and upper case by turns

The two mappings do not undo each other: there are several letters with one upper case, letters
whose upper case is more than one letter, and capitals that are the upper case of nothing.  Once a
text has been brought to lower and then to upper case, however, doing both again changes nothing
(`Text.upper_lower_upper_lower`).

The tables map runs of code points at once, and what has to be known of them is checked run by run.
There are two such facts: the image of a run under the lower mapping lies in no run of that mapping
(`CaseRun.avoids`), and a run of the upper mapping is led back to where it has come from
(`CaseRun.leadsTo`).

A word of ASCII capitals is the upper case of few texts in lower case, and these can be listed
(`Text.mem_spellings`).
-/

-- a decision about a table goes through its runs one inside the other, and there are about 190
set_option maxRecDepth 2000

theorem CodePoint.val_ofNat {code : Nat} (inside : code < 0x110000) : (ofNat code).val = code := by
  rw [ofNat, dif_pos inside]

theorem CodePoint.ofNat_val (c : CodePoint) : ofNat c.val = c :=
  CodePoint.ext (val_ofNat c.isLt)

/-! ## Runs -/

namespace CaseRun

/-- Where a run maps one of its codes. -/
def image (run : CaseRun) (code : Nat) : Nat := run.target + (code - run.first)

/-- That a run is not empty and lies behind another. -/
def Before (earlier later : CaseRun) : Prop :=
  earlier.last < later.first ∧ later.first ≤ later.last

instance (earlier later : CaseRun) : Decidable (earlier.Before later) :=
  inferInstanceAs (Decidable (_ ∧ _))

instance : Trans Before Before Before where
  trans before behind := ⟨Nat.lt_trans (Nat.lt_of_lt_of_le before.1 before.2) behind.1, behind.2⟩

/-- A run of a single code that is mapped to itself. -/
def point (code : Nat) : CaseRun := ⟨code, code, 1, code⟩

/-- Whether another run covers all images of a run.  This and the next test are put in the
comparisons of numbers that the kernel computes by itself. -/
def leadsTo (run next : CaseRun) : Bool :=
  (run.image run.last).ble next.last && next.first.ble run.target &&
    ((run.target - next.first) % next.stride).beq 0 &&
    ((run.stride % next.stride).beq 0 || run.first.beq run.last)

/-- Two runs after one another, where the second covers the images of the first. -/
def andThen (run next : CaseRun) : CaseRun := { run with target := next.image run.target }

/-- Whether another run covers no image of a run: it lies before or behind them all, or between
them. -/
def avoids (run other : CaseRun) : Bool :=
  other.last.blt run.target || (run.image run.last).blt other.first ||
    (other.stride.beq 2 && (run.stride.beq 2 || run.first.beq run.last) &&
      ((run.target + other.first) % 2).beq 1)

variable {run next other : CaseRun} {c d : CodePoint}

theorem covers_iff : run.covers c = true ↔
    run.first ≤ c.val ∧ c.val ≤ run.last ∧ run.stride ∣ c.val - run.first := by
  simp only [covers, Bool.and_eq_true, decide_eq_true_eq, beq_iff_eq, Nat.dvd_iff_mod_eq_zero,
    and_assoc]

theorem point_covers (c : CodePoint) : (point c.val).covers c = true :=
  covers_iff.mpr ⟨Nat.le_refl _, Nat.le_refl _, Nat.one_dvd _⟩

theorem leadsTo_iff : run.leadsTo next = true ↔
    run.image run.last ≤ next.last ∧ next.first ≤ run.target ∧
      next.stride ∣ run.target - next.first ∧
        (next.stride ∣ run.stride ∨ run.first = run.last) := by
  simp only [leadsTo, Bool.and_eq_true, Bool.or_eq_true, Nat.ble_eq, Nat.beq_eq,
    Nat.dvd_iff_mod_eq_zero, and_assoc]

theorem avoids_iff : run.avoids other = true ↔
    other.last < run.target ∨ run.image run.last < other.first ∨
      other.stride = 2 ∧ (run.stride = 2 ∨ run.first = run.last) ∧
        (run.target + other.first) % 2 = 1 := by
  simp only [avoids, Bool.and_eq_true, Bool.or_eq_true, Nat.blt_eq, Nat.beq_eq, and_assoc,
    or_assoc]

theorem covers_of_leadsTo (covers : run.covers c = true) (leads : run.leadsTo next = true)
    (isImage : d.val = run.image c.val) : next.covers d = true := by
  rcases covers_iff.mp covers with ⟨first, last, divides⟩
  rcases leadsTo_iff.mp leads with ⟨lastNext, firstNext, start, steps⟩
  rw [image] at lastNext
  rw [covers_iff, isImage, image]
  refine ⟨by omega, by omega, ?_⟩
  rw [Nat.sub_add_comm firstNext]
  refine Nat.dvd_add start ?_
  rcases steps with divided | single
  · exact Nat.dvd_trans divided divides
  · have same : c.val - run.first = 0 := by omega
    rw [same]
    exact Nat.dvd_zero _

theorem image_andThen (leads : run.leadsTo next = true) (code : Nat) :
    (run.andThen next).image code = next.image (run.image code) := by
  have firstNext := (leadsTo_iff.mp leads).2.1
  simp only [andThen, image]
  omega

theorem not_covers_of_avoids (covers : run.covers c = true) (avoids : run.avoids other = true)
    (isImage : d.val = run.image c.val) : other.covers d = false := by
  rcases covers_iff.mp covers with ⟨first, last, divides⟩
  rw [Bool.eq_false_iff, ne_eq, covers_iff, isImage, image]
  rintro ⟨firstOther, lastOther, dividesOther⟩
  rcases avoids_iff.mp avoids with before | behind | ⟨two, steps, odd⟩
  · omega
  · rw [image] at behind
    omega
  · rw [two] at dividesOther
    rcases steps with twoToo | single
    · rw [twoToo] at divides
      omega
    · omega

end CaseRun

/-! ## Mappings -/

namespace CaseMapping

/-- What all tables have in common: the runs are in order, no code with several images is in a
run, and the images are code points. -/
structure IsTable (mapping : CaseMapping) : Prop where
  ordered : mapping.runs.IsChain CaseRun.Before
  single : (mapping.expansions.all fun expansion =>
    mapping.runs.all (CaseRun.point expansion.1).avoids) = true
  inside : ∀ run ∈ mapping.runs, run.image run.last < 0x110000

/-- What a code point can be mapped to. -/
inductive Maps (mapping : CaseMapping) (c : CodePoint) : Text → Prop
  | expansion {images : List Nat} (listed : (c.val, images) ∈ mapping.expansions) :
      Maps mapping c (images.map CodePoint.ofNat)
  | run {run : CaseRun} (listed : run ∈ mapping.runs) (covers : run.covers c = true) :
      Maps mapping c [CodePoint.ofNat (run.image c.val)]
  | self : Maps mapping c [c]

variable {mapping : CaseMapping} {run : CaseRun} {c : CodePoint}

theorem maps_apply (mapping : CaseMapping) (c : CodePoint) : mapping.Maps c (mapping.apply c) := by
  rw [apply]
  split
  · next code images found =>
      have same : code = c.val := by simpa using List.find?_some found
      subst same
      exact .expansion (List.mem_of_find?_eq_some found)
  · split
    · next run found =>
        have covers := List.find?_some (p := (CaseRun.covers · c)) found
        exact .run (List.mem_of_find?_eq_some found) covers
    · exact .self

theorem find?_of_covers {runs : List CaseRun} (ordered : runs.Pairwise CaseRun.Before)
    (listed : run ∈ runs) (covers : run.covers c = true) : runs.find? (·.covers c) = some run := by
  induction runs with
  | nil => cases listed
  | cons first rest inductionHypothesis =>
      rcases List.pairwise_cons.mp ordered with ⟨before, orderedRest⟩
      rcases List.mem_cons.mp listed with rfl | later
      · exact List.find?_cons_of_pos covers
      · have outside : ¬first.covers c = true := by
          intro coversToo
          have behind := (before run later).1
          have low := (CaseRun.covers_iff.mp covers).1
          have high := (CaseRun.covers_iff.mp coversToo).2.1
          omega
        rw [List.find?_cons_of_neg (p := (CaseRun.covers · c)) outside]
        exact inductionHypothesis orderedRest later

/-- A code point in a run is mapped by that run. -/
theorem IsTable.apply_eq (isTable : mapping.IsTable) (listed : run ∈ mapping.runs)
    (covers : run.covers c = true) :
    mapping.apply c = [CodePoint.ofNat (run.image c.val)] := by
  have noExpansion : mapping.expansions.find? (·.1 == c.val) = none := by
    refine List.find?_eq_none.mpr fun expansion member same => ?_
    have apart := List.all_eq_true.mp (List.all_eq_true.mp isTable.single expansion member) run
      listed
    rw [beq_iff_eq.mp same] at apart
    have outside := CaseRun.not_covers_of_avoids (CaseRun.point_covers c) apart (d := c)
      (by rw [CaseRun.image, CaseRun.point, Nat.sub_self, Nat.add_zero])
    rw [covers] at outside
    cases outside
  have ordered := List.isChain_iff_pairwise.mp isTable.ordered
  rw [apply, noExpansion, find?_of_covers ordered listed covers]
  rfl

theorem IsTable.val_image (isTable : mapping.IsTable) (listed : run ∈ mapping.runs)
    (covers : run.covers c = true) :
    (CodePoint.ofNat (run.image c.val)).val = run.image c.val := by
  have inside := isTable.inside run listed
  have last := (CaseRun.covers_iff.mp covers).2.1
  refine CodePoint.val_ofNat ?_
  rw [CaseRun.image] at inside ⊢
  omega

end CaseMapping

/-! ## The two tables -/

theorem lowerMapping_isTable : lowerMapping.IsTable where
  ordered := by decide
  single := by decide
  inside := by decide

theorem upperMapping_isTable : upperMapping.IsTable where
  ordered := by decide
  single := by decide
  inside := by decide

namespace CodePoint

variable {c d : CodePoint}

theorem lower_of_le (beyond : 0x80 ≤ c.val) : c.lower = lowerMapping.apply c := by
  rw [lower, if_neg (by omega)]

theorem upper_of_le (beyond : 0x80 ≤ c.val) : c.upper = upperMapping.apply c := by
  rw [upper, if_neg (by omega)]

/-! ### Lower case -/

theorem lower_of_mem_lower_of_ascii : ∀ code < 0x80, ∀ d ∈ (ofNat code).lower, d.lower = [d] := by
  decide

theorem lower_of_expansion : ∀ expansion ∈ lowerMapping.expansions, expansion.1 = 0x130 ∧
    ∀ code ∈ expansion.2, (ofNat code).lower = [ofNat code] := by
  decide

/-- One run leads into ASCII, and no run to the code that has several images. -/
theorem lower_targets : ∀ run ∈ lowerMapping.runs,
    (run.target = 0x6B ∧ run.first = run.last) ∨
      0x80 ≤ run.target ∧ (run.image run.last < 0x130 ∨ 0x130 < run.target) := by
  decide

theorem lower_runs_avoid :
    (lowerMapping.runs.all fun run => lowerMapping.runs.all run.avoids) = true := by
  decide

theorem lower_image {run : CaseRun} (listed : run ∈ lowerMapping.runs)
    (covers : run.covers c = true) (isImage : d.val = run.image c.val) : d.lower = [d] := by
  have last := (CaseRun.covers_iff.mp covers).2.1
  rcases lower_targets run listed with ⟨kelvin, single⟩ | ⟨beyond, apart⟩
  · have code : d.val = 0x6B := by
      rw [isImage, CaseRun.image]
      omega
    rw [← d.ofNat_val, code]
    decide
  · rw [CaseRun.image] at isImage apart
    rw [lower_of_le (by omega)]
    have maps := lowerMapping.maps_apply d
    generalize lowerMapping.apply d = text at maps
    cases maps with
    | expansion listedToo =>
        have code : d.val = 0x130 := (lower_of_expansion _ listedToo).1
        omega
    | @run other listedToo coversToo =>
        have avoids := List.all_eq_true.mp (List.all_eq_true.mp lower_runs_avoid run listed)
          other listedToo
        rw [CaseRun.not_covers_of_avoids covers avoids isImage] at coversToo
        cases coversToo
    | self => rfl

/-- What is in lower case stays as it is. -/
theorem lower_of_mem_lower (member : d ∈ c.lower) : d.lower = [d] := by
  by_cases ascii : c.val < 0x80
  · rw [← c.ofNat_val] at member
    exact lower_of_mem_lower_of_ascii _ ascii d member
  rw [lower_of_le (by omega)] at member
  have maps := lowerMapping.maps_apply c
  generalize images : lowerMapping.apply c = text at maps member
  cases maps with
  | expansion listed =>
      rcases List.mem_map.mp member with ⟨code, image, rfl⟩
      exact (lower_of_expansion _ listed).2 code image
  | run listed covers =>
      cases List.mem_singleton.mp member
      exact lower_image listed covers (lowerMapping_isTable.val_image listed covers)
  | self =>
      cases List.mem_singleton.mp member
      rw [lower_of_le (by omega), images]

/-! ### Upper case -/

theorem upper_lower_of_ascii : ∀ code < 0x80, ∀ d ∈ (ofNat code).upper,
    Text.upper d.lower = [d] := by
  decide

theorem upper_lower_of_expansion : ∀ expansion ∈ upperMapping.expansions,
    ∀ code ∈ expansion.2, Text.upper (ofNat code).lower = [ofNat code] := by
  decide

/-- Two runs lead into ASCII.  All others are led back by the lower mapping, and then by the upper
mapping to their own images. -/
theorem upper_runs_return : (upperMapping.runs.all fun run =>
    run.first == run.last && [0x49, 0x53].contains run.target ||
      Nat.ble 0x80 run.target && lowerMapping.runs.any fun down =>
        run.leadsTo down && Nat.ble 0x80 down.target &&
        upperMapping.runs.any fun up => (up.target + down.target).beq (up.first + down.first) &&
          (run.andThen down).leadsTo up) = true := by
  decide

theorem upper_lower_image {run : CaseRun} (listed : run ∈ upperMapping.runs)
    (covers : run.covers c = true) (isImage : d.val = run.image c.val) :
    Text.upper d.lower = [d] := by
  have returns := List.all_eq_true.mp upper_runs_return run listed
  simp only [Bool.or_eq_true, Bool.and_eq_true, List.any_eq_true, beq_iff_eq, Nat.ble_eq,
    Nat.beq_eq, List.contains_iff_mem] at returns
  have last := (CaseRun.covers_iff.mp covers).2.1
  rcases returns with ⟨single, ascii⟩ | ⟨beyond, down, listedDown, ⟨leads, beyondDown⟩, returns⟩
  · have code : d.val ∈ [0x49, 0x53] := by
      have none : c.val - run.first = 0 := by omega
      rwa [isImage, CaseRun.image, none]
    rw [← d.ofNat_val]
    exact (by decide : ∀ code ∈ [0x49, 0x53], Text.upper (ofNat code).lower = [ofNat code]) _ code
  · rcases returns with ⟨up, listedUp, inverse, leadsUp⟩
    have coversDown := CaseRun.covers_of_leadsTo covers leads isImage
    have firstDown := (CaseRun.covers_iff.mp coversDown).1
    -- the code point in lower case
    have lowered : d.lower = [ofNat (down.image d.val)] := by
      rw [CaseRun.image] at isImage
      rw [lower_of_le (by omega), lowerMapping_isTable.apply_eq listedDown coversDown]
    have isLowered := lowerMapping_isTable.val_image listedDown coversDown
    generalize ofNat (down.image d.val) = e at lowered isLowered
    have coversUp : up.covers e = true := by
      refine @CaseRun.covers_of_leadsTo (run.andThen down) up c e covers leadsUp ?_
      rw [isLowered, isImage, CaseRun.image_andThen leads]
    have firstUp := (CaseRun.covers_iff.mp coversUp).1
    rw [CaseRun.image] at isLowered
    have back : up.image e.val = d.val := by
      rw [CaseRun.image]
      omega
    rw [lowered, Text.upper, List.flatMap_singleton, upper_of_le (by omega),
      upperMapping_isTable.apply_eq listedUp coversUp, back, ofNat_val]

/-- A code point that is led to upper case is led back there. -/
theorem upper_lower_of_mem_upper (moved : c.upper ≠ [c]) (member : d ∈ c.upper) :
    Text.upper d.lower = [d] := by
  by_cases ascii : c.val < 0x80
  · rw [← c.ofNat_val] at member
    exact upper_lower_of_ascii _ ascii d member
  rw [upper_of_le (by omega)] at member moved
  have maps := upperMapping.maps_apply c
  generalize upperMapping.apply c = text at maps member moved
  cases maps with
  | expansion listed =>
      rcases List.mem_map.mp member with ⟨code, image, rfl⟩
      exact upper_lower_of_expansion _ listed code image
  | run listed covers =>
      cases List.mem_singleton.mp member
      exact upper_lower_image listed covers (upperMapping_isTable.val_image listed covers)
  | self => exact absurd rfl moved

end CodePoint

namespace Text

/-- All of a text in lower case stays as it is. -/
theorem lower_of_mem_lower {text : Text} {c : CodePoint} (member : c ∈ text.lower) :
    c.lower = [c] := by
  rcases List.mem_flatMap.mp member with ⟨_, _, image⟩
  exact CodePoint.lower_of_mem_lower image

/-- After lower and upper case, the same again changes nothing. -/
theorem upper_lower_upper_lower (text : Text) :
    text.lower.upper.lower.upper = text.lower.upper := by
  have same : ∀ d ∈ text.lower.upper, upper d.lower = [d] := by
    intro d member
    rcases List.mem_flatMap.mp member with ⟨e, isLower, image⟩
    by_cases moved : e.upper = [e]
    · rw [moved] at image
      cases List.mem_singleton.mp image
      rw [lower_of_mem_lower isLower]
      exact (List.flatMap_singleton _ _).trans moved
    · exact CodePoint.upper_lower_of_mem_upper moved image
  rw [upper, lower, List.flatMap_assoc]
  exact (List.flatMap_congr same).trans (List.flatMap_singleton' _)

end Text

/-! ## Words in ASCII -/

namespace CodePoint

/-- The codes beyond ASCII whose upper case lies in it: a few letters, and ligatures. -/
def foldedCodes : List Nat :=
  [0xDF, 0x131, 0x17F, 0xFB00, 0xFB01, 0xFB02, 0xFB03, 0xFB04, 0xFB05, 0xFB06]

/-- The code points in lower case whose upper case lies in ASCII. -/
def asciiSources : List CodePoint :=
  (((List.range 0x80) ++ foldedCodes).map ofNat).filter fun c => c.lower = [c]

variable {c d : CodePoint}

theorem expansions_beyond_ascii : ∀ expansion ∈ upperMapping.expansions,
    expansion.1 ∈ foldedCodes ∨ ∃ code ∈ expansion.2, 0x80 ≤ (ofNat code).val := by
  decide

theorem runs_beyond_ascii : ∀ run ∈ upperMapping.runs,
    run.first = run.last ∧ run.first ∈ foldedCodes ∨ 0x80 ≤ run.target := by
  decide

theorem mem_foldedCodes (beyond : 0x80 ≤ c.val) (ascii : ∀ d ∈ c.upper, d.val < 0x80) :
    c.val ∈ foldedCodes := by
  rw [upper_of_le beyond] at ascii
  have maps := upperMapping.maps_apply c
  generalize upperMapping.apply c = text at maps ascii
  cases maps with
  | expansion listed =>
      rcases expansions_beyond_ascii _ listed with folded | ⟨code, image, high⟩
      · exact folded
      · have low := ascii _ (List.mem_map_of_mem image)
        omega
  | run listed covers =>
      rcases CaseRun.covers_iff.mp covers with ⟨first, last, _⟩
      rcases runs_beyond_ascii _ listed with ⟨single, folded⟩ | high
      · have code : c.val = _ := Nat.le_antisymm (single ▸ last) first
        rwa [code]
      · have low := ascii _ (List.mem_singleton_self _)
        rw [upperMapping_isTable.val_image listed covers, CaseRun.image] at low
        omega
  | self =>
      have low := ascii c (List.mem_singleton_self c)
      omega

theorem mem_asciiSources (stable : c.lower = [c]) (ascii : ∀ d ∈ c.upper, d.val < 0x80) :
    c ∈ asciiSources := by
  refine List.mem_filter.mpr ⟨List.mem_map.mpr ⟨c.val, ?_, c.ofNat_val⟩, decide_eq_true stable⟩
  by_cases small : c.val < 0x80
  · exact List.mem_append_left _ (List.mem_range.mpr small)
  · exact List.mem_append_right _ (mem_foldedCodes (by omega) ascii)

end CodePoint

namespace Text

/-- The texts in lower case, of at most the given length, whose upper case is a word in ASCII. -/
def spellings : (length : Nat) → (word : Text) → List Text
  | _, [] => [[]]
  | 0, _ :: _ => []
  | length + 1, word => CodePoint.asciiSources.flatMap fun c =>
    if c.upper.isPrefixOf word then
      (spellings length (word.drop c.upper.length)).map (c :: ·)
    else []

theorem upper_ne_nil_of_mem_asciiSources : ∀ c ∈ CodePoint.asciiSources, c.upper ≠ [] := by
  decide

variable {text : Text}

theorem length_le_length_upper (sources : ∀ c ∈ text, c ∈ CodePoint.asciiSources) :
    text.length ≤ text.upper.length := by
  induction text with
  | nil => exact Nat.le_refl 0
  | cons c rest inductionHypothesis =>
      rcases List.forall_mem_cons.mp sources with ⟨first, others⟩
      have filled := List.length_pos_iff.mpr (upper_ne_nil_of_mem_asciiSources c first)
      have restShort := inductionHypothesis others
      rw [upper, List.flatMap_cons, List.length_append, List.length_cons]
      rw [upper] at restShort
      omega

theorem mem_spellings_of_sources (sources : ∀ c ∈ text, c ∈ CodePoint.asciiSources) {length : Nat}
    (short : text.length ≤ length) : text ∈ spellings length text.upper := by
  induction text generalizing length with
  | nil => cases length <;> exact List.mem_singleton_self _
  | cons c rest inductionHypothesis =>
      rcases List.forall_mem_cons.mp sources with ⟨first, others⟩
      cases length with
      | zero => cases short
      | succ length =>
          have found := inductionHypothesis others (Nat.le_of_succ_le_succ short)
          have filled : c.upper ++ upper rest ≠ [] :=
            List.append_ne_nil_of_left_ne_nil (upper_ne_nil_of_mem_asciiSources c first) _
          have starts : c.upper.isPrefixOf (c.upper ++ upper rest) = true :=
            List.isPrefixOf_iff_prefix.mpr (List.prefix_append _ _)
          have behind : (c.upper ++ upper rest).drop c.upper.length = upper rest := List.drop_left
          rw [show upper (c :: rest) = c.upper ++ upper rest from List.flatMap_cons]
          generalize c.upper ++ upper rest = word at filled starts behind
          cases word with
          | nil => exact absurd rfl filled
          | cons d more =>
              refine List.mem_flatMap.mpr ⟨c, first, ?_⟩
              rw [if_pos starts, behind]
              exact List.mem_map_of_mem found

/-- A text in lower case is one of the spellings of its upper case, if that is in ASCII. -/
theorem mem_spellings (stable : ∀ c ∈ text, c.lower = [c])
    (ascii : ∀ d ∈ text.upper, d.val < 0x80) : text ∈ spellings text.upper.length text.upper := by
  have sources : ∀ c ∈ text, c ∈ CodePoint.asciiSources := fun c member =>
    CodePoint.mem_asciiSources (stable c member) fun d image =>
      ascii d (List.mem_flatMap.mpr ⟨c, member, image⟩)
  exact mem_spellings_of_sources sources (length_le_length_upper sources)

end Text

end Syslog
