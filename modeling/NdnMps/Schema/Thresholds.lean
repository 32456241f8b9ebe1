import NdnMps.Schema.Loader

/-! The numbers in a configuration: numerals that do not convert are replaced without a word. -/

namespace NdnMps

namespace SchemaSection

/-- A minimum is the written one: none is written and it is zero, or its numeral is. -/
def WrittenMinimum (config : SchemaSection) (minimum : Nat) : Prop :=
  match config.getChild configAtLeastNum with
  | none => minimum = 0
  | some child => Numeral.Spells child.data.toList minimum

/-- An entry of the form `nx/...` with a positive decimal numeral. -/
def Quantified (entry : String) (times : Nat) : Prop :=
  0 < times ∧ ∃ digits rest, entry.toList = digits ++ 'x' :: '/' :: rest ∧ digits ≠ [] ∧
    (∀ char ∈ digits, char.isDigit = true) ∧ Numeral.value digits = times

/-- What stands in front of the first slash of an entry, where there is an `x` in it: the loader
takes it for a number. -/
def Prefixed (entry : String) (front : List Char) : Prop :=
  (∃ rest, entry.toList = front ++ '/' :: rest) ∧ '/' ∉ front ∧ 'x' ∈ front

/-- A pattern is asked for as often as its entry says: by a positive number in digits in front of
`x/`, and by nothing with an `x` in front of the slash but the numeral of that number. -/
structure WrittenTimes (entry : String) (pattern : WildCardName) : Prop where
  quantified : ∀ times, Quantified entry times → pattern.times = times
  numeral : ∀ front, Prefixed entry front →
    ∃ numeral, front = numeral ++ ['x'] ∧ Numeral.Spells numeral (pattern.times : Nat)

/-- The thresholds of a schema are the written ones. -/
structure AsWritten (config : SchemaSection) (schema : MultipartySchema) : Prop where
  minimum : config.WrittenMinimum schema.minOptionalSigners
  signers : List.Forall₂ WrittenTimes (config.entries configAllOf) schema.signers
  optionalSigners : List.Forall₂ WrittenTimes (config.entries configAtLeast)
    schema.optionalSigners

/-- What an entry has in front of the slash, with an `x` in it, is the numeral of a natural number
that an `int` holds, and the `x`. -/
def RepresentableTimes (entry : String) : Prop :=
  ∀ front, Prefixed entry front → ∃ (numeral : List Char) (number : Nat), number < intBound ∧
    front = numeral ++ ['x'] ∧ Numeral.Spells numeral number

/-- The minimum is left out or the numeral of a natural number that an `int` holds, and so is every
quantifying number. -/
structure Representable (config : SchemaSection) : Prop where
  minimum : ∀ child, config.getChild configAtLeastNum = some child →
    ∃ number < intBound, Numeral.Spells child.data.toList (number : Nat)
  times : ∀ entry ∈ config.entries configAllOf ++ config.entries configAtLeast,
    RepresentableTimes entry

/-- A number in digits is in front of the slash, with the `x` behind it. -/
theorem Quantified.prefixed {entry : String} {times : Nat} (quantified : Quantified entry times) :
    ∃ digits, Prefixed entry (digits ++ ['x']) ∧ Numeral.Spells digits (times : Nat) := by
  obtain ⟨-, digits, rest, split, nonempty, allDigits, same⟩ := quantified
  have absent : '/' ∉ digits ++ ['x'] := by
    intro member
    rcases List.mem_append.mp member with inside | last
    · exact absurd (allDigits '/' inside) (by decide)
    · exact absurd (List.mem_singleton.mp last) (by decide)
  refine ⟨digits, ⟨⟨rest, ?_⟩, absent, by simp⟩, same ▸ Numeral.spells_digits nonempty allDigits⟩
  rw [split, List.append_assoc]
  rfl

/-- An entry keeps its number exactly when an `int` holds it. -/
theorem writtenTimes_iff {entry : String} {pattern : WildCardName}
    (read : WildCardName.ofText entry = .ok pattern) :
    WrittenTimes entry pattern ↔ RepresentableTimes entry := by
  -- The number is read from what stands in front of the first slash.
  have times : ∀ front, Prefixed entry front → pattern.times = WildCardName.timesOf front := by
    rintro front ⟨⟨rest, split⟩, absent, -⟩
    rw [WildCardName.ofText_of_slash absent split] at read
    cases read
    rfl
  constructor
  · intro written front quantifies
    obtain ⟨numeral, same, spells⟩ := written.numeral front quantifies
    refine ⟨numeral, pattern.times, ?_, same, spells⟩
    -- The number one, which replaces a larger one, is held by an `int`.
    have kept := times front quantifies
    rw [same, WildCardName.timesOf_numeral spells] at kept
    by_contra large
    rw [if_neg large] at kept
    rw [kept] at large
    exact large (by decide)
  · intro fits
    have kept : ∀ front, Prefixed entry front → ∃ numeral, front = numeral ++ ['x'] ∧
        Numeral.Spells numeral (pattern.times : Nat) := by
      intro front quantifies
      obtain ⟨numeral, number, small, same, spells⟩ := fits front quantifies
      refine ⟨numeral, same, ?_⟩
      rw [times front quantifies, same, WildCardName.timesOf_numeral spells, if_pos small]
      exact spells
    refine ⟨fun number quantified => ?_, kept⟩
    obtain ⟨digits, quantifies, spells⟩ := quantified.prefixed
    obtain ⟨numeral, same, written⟩ := kept _ quantifies
    cases List.append_cancel_right same
    exact_mod_cast written.unique spells

/-- So do the entries of a list. -/
theorem forall₂_writtenTimes_iff {entries : List String} {patterns : List WildCardName}
    (read : entries.map WildCardName.ofText = patterns.map .ok) :
    List.Forall₂ WrittenTimes entries patterns ↔ ∀ entry ∈ entries, RepresentableTimes entry := by
  -- Induction on the entries, each of which is read as one pattern.
  induction entries generalizing patterns with
  | nil =>
    cases patterns with
    | nil => simp
    | cons pattern others => simp at read
  | cons entry rest ih =>
    cases patterns with
    | nil => simp at read
    | cons pattern others =>
      obtain ⟨first, later⟩ := List.cons.inj read
      rw [List.forall₂_cons, writtenTimes_iff first, ih later, List.forall_mem_cons]

/-- The loaded minimum is the written one exactly when nothing is written or an `int` holds the
natural number that is. -/
theorem writtenMinimum_iff (config : SchemaSection) :
    config.WrittenMinimum (sizeOfInt (config.getInt configAtLeastNum 0)) ↔
      ∀ child, config.getChild configAtLeastNum = some child →
        ∃ number < intBound, Numeral.Spells child.data.toList (number : Nat) := by
  unfold WrittenMinimum getInt
  cases written : config.getChild configAtLeastNum with
  | none => simp [sizeOfInt]
  | some child =>
    have each : (∀ other, some child = some other →
        ∃ number < intBound, Numeral.Spells other.data.toList (number : Nat)) ↔
        ∃ number < intBound, Numeral.Spells child.data.toList (number : Nat) := by
      constructor
      · exact fun all => all child rfl
      · intro one other same
        cases same
        exact one
    rw [each]
    dsimp only
    cases spelled : Numeral.readWhole child.data.toList with
    | none =>
      -- Nothing is spelled at all.
      have never : ∀ number : Int, ¬ Numeral.Spells child.data.toList number := by
        intro number spells
        rw [Numeral.readWhole_eq_some_iff.mpr spells] at spelled
        cases spelled
      constructor
      · exact fun spells => absurd spells (never _)
      · intro ⟨number, _, spells⟩
        exact absurd spells (never _)
    | some number =>
      have spells := Numeral.readWhole_eq_some_iff.mp spelled
      have only : ∀ other : Int, Numeral.Spells child.data.toList other → other = number := by
        intro other another
        have read := Numeral.readWhole_eq_some_iff.mpr another
        exact Option.some.inj (read.symm.trans spelled)
      dsimp only
      constructor
      · intro kept
        have same := only _ kept
        by_cases fits : fitsInt number = true
        · rw [if_pos fits] at same kept
          refine ⟨sizeOfInt number, ?_, kept⟩
          -- A negative number is stored as a large one and is not the written one.
          simp only [fitsInt, decide_eq_true_eq] at fits
          omega
        · rw [if_neg fits] at same kept
          refine ⟨sizeOfInt 0, by decide, kept⟩
      · intro ⟨small, fits, another⟩
        have same := only _ another
        rw [← same, if_pos (fitsInt_natCast.mpr fits), sizeOfInt_natCast fits]
        exact another

/-- Every accepted configuration gives the thresholds that are written exactly when its numbers
can be represented. -/
theorem fromSchemaSection_asWritten_iff (config : SchemaSection) :
    (∀ schema, fromSchemaSection config = .ok schema → config.AsWritten schema) ↔
      (config.Loads → config.Representable) := by
  constructor
  · -- A configuration that loads has a schema, and its numbers are those of the text.
    intro all loads
    obtain ⟨schema, loaded⟩ := loads.exists_schema
    have fields := (fromSchemaSection_eq_ok_iff.mp loaded).2
    have written := all schema loaded
    have minimum := written.minimum
    rw [fields.minimum, config.writtenMinimum_iff] at minimum
    refine ⟨minimum, fun entry member => ?_⟩
    rcases List.mem_append.mp member with required | optional
    · exact (forall₂_writtenTimes_iff fields.signers).mp written.signers entry required
    · exact (forall₂_writtenTimes_iff fields.optionalSigners).mp written.optionalSigners entry
        optional
  · intro representable schema loaded
    -- The loader reads each number of the text, and it can represent it.
    obtain ⟨loads, fields⟩ := fromSchemaSection_eq_ok_iff.mp loaded
    have numbers := representable loads
    refine ⟨?_, ?_, ?_⟩
    · rw [fields.minimum, config.writtenMinimum_iff]
      exact numbers.minimum
    · exact (forall₂_writtenTimes_iff fields.signers).mpr fun entry required =>
        numbers.times entry (List.mem_append_left _ required)
    · exact (forall₂_writtenTimes_iff fields.optionalSigners).mpr fun entry optional =>
        numbers.times entry (List.mem_append_right _ optional)

/-- A rule for one packet with a minimum and one required pattern, both as texts. -/
def ruleSection (minimum entry : String) : SchemaSection :=
  .node "" [(configPktName, .leaf "/data"), (configRuleId, .leaf "rule"),
    (configAtLeastNum, .leaf minimum), (configAllOf, .node "" [("", .leaf entry)])]

/-- A minimum that is not the number its text spells is not the written one. -/
theorem not_writtenMinimum {minimum entry : String} {number : Nat}
    (other : Numeral.readWhole minimum.toList ≠ some (number : Int)) :
    ¬ (ruleSection minimum entry).WrittenMinimum number := by
  intro written
  exact other (Numeral.readWhole_eq_some_iff.mpr written)

/-- A quantifying number that is not the one its text spells is not the written one. -/
theorem not_writtenTimes {entry : String} {pattern : WildCardName} (numeral : List Char)
    (quantifies : Prefixed entry (numeral ++ ['x']))
    (other : Numeral.readWhole numeral ≠ some (pattern.times : Int)) :
    ¬ WrittenTimes entry pattern := by
  intro written
  obtain ⟨text, same, spells⟩ := written.numeral _ quantifies
  cases List.append_cancel_right same
  exact other (Numeral.readWhole_eq_some_iff.mpr spells)

/-- Malformed and large numbers give weaker thresholds, and a negative one gives another one. -/
theorem fromSchemaSection_replaces_numbers :
    (∃ schema, fromSchemaSection (ruleSection "two" "/a/KEY/1") = .ok schema ∧
        schema.minOptionalSigners = 0 ∧
        ¬ (ruleSection "two" "/a/KEY/1").AsWritten schema) ∧
      (∃ schema, fromSchemaSection (ruleSection "4294967296" "/a/KEY/1") = .ok schema ∧
        schema.minOptionalSigners = 0 ∧
        ¬ (ruleSection "4294967296" "/a/KEY/1").AsWritten schema) ∧
      (∃ schema, fromSchemaSection (ruleSection "-1" "/a/KEY/1") = .ok schema ∧
        schema.minOptionalSigners = 18446744073709551615 ∧
        ¬ (ruleSection "-1" "/a/KEY/1").AsWritten schema) ∧
      (∃ schema, fromSchemaSection (ruleSection "0" "4294967296x/a/KEY/*") = .ok schema ∧
        schema.signers.map WildCardName.times = [1] ∧
        ¬ (ruleSection "0" "4294967296x/a/KEY/*").AsWritten schema) ∧
      (∃ schema, fromSchemaSection (ruleSection "0" "threex/a/KEY/*") = .ok schema ∧
        schema.signers.map WildCardName.times = [1] ∧
        ¬ (ruleSection "0" "threex/a/KEY/*").AsWritten schema) ∧
      (∃ schema, fromSchemaSection (ruleSection "0" "0x10x/a/KEY/*") = .ok schema ∧
        schema.signers.map WildCardName.times = [0] ∧
        ¬ (ruleSection "0" "0x10x/a/KEY/*").AsWritten schema) ∧
      ∃ schema, fromSchemaSection (ruleSection "0" "-1x/a/KEY/*") = .ok schema ∧
        schema.signers.map WildCardName.times = [18446744073709551615] ∧
        ¬ (ruleSection "0" "-1x/a/KEY/*").AsWritten schema := by
  refine ⟨⟨_, rfl, rfl, fun written => ?_⟩, ⟨_, rfl, rfl, fun written => ?_⟩,
    ⟨_, rfl, rfl, fun written => ?_⟩, ⟨_, rfl, rfl, fun written => ?_⟩,
    ⟨_, rfl, rfl, fun written => ?_⟩, ⟨_, rfl, rfl, fun written => ?_⟩,
    ⟨_, rfl, rfl, fun written => ?_⟩⟩
  · -- The minimum loaded is not the one of the text.
    exact not_writtenMinimum (by decide) written.minimum
  · exact not_writtenMinimum (by decide) written.minimum
  · exact not_writtenMinimum (by decide) written.minimum
  · -- The number in front of the `x` is not the one of the pattern.
    refine not_writtenTimes "4294967296".toList ?_ ?_ (List.forall₂_cons.mp written.signers).1
    · exact ⟨⟨"a/KEY/*".toList, by decide⟩, by decide, by decide⟩
    · decide
  · refine not_writtenTimes "three".toList ?_ ?_ (List.forall₂_cons.mp written.signers).1
    · exact ⟨⟨"a/KEY/*".toList, by decide⟩, by decide, by decide⟩
    · decide
  · refine not_writtenTimes "0x10".toList ?_ ?_ (List.forall₂_cons.mp written.signers).1
    · exact ⟨⟨"a/KEY/*".toList, by decide⟩, by decide, by decide⟩
    · decide
  · refine not_writtenTimes "-1".toList ?_ ?_ (List.forall₂_cons.mp written.signers).1
    · exact ⟨⟨"a/KEY/*".toList, by decide⟩, by decide, by decide⟩
    · decide

end SchemaSection

end NdnMps
