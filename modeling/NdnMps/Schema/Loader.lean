import NdnMps.Data.Traversal
import NdnMps.Schema.Config

/-! What the loader makes of a configuration, and which configurations it refuses. -/

namespace NdnMps

/-- The first place of an element behind others that differ from it. -/
theorem idxOf?_append_cons {α : Type*} [DecidableEq α] {before : List α} {element : α}
    (absent : element ∉ before) (rest : List α) :
    (before ++ element :: rest).idxOf? element = some before.length := by
  -- Induction on the elements in front, which are all skipped.
  induction before with
  | nil => simp [List.idxOf?_cons]
  | cons head tail ih =>
    rw [List.mem_cons, not_or] at absent
    have other : (head == element) = false := by simpa using Ne.symm absent.1
    rw [List.cons_append, List.idxOf?_cons, other, ih absent.2]
    rfl

/-- An `int` holds the natural numbers below its bound. -/
theorem fitsInt_natCast {number : Nat} : fitsInt number = true ↔ number < intBound := by
  unfold fitsInt
  rw [decide_eq_true_eq]
  omega

/-- A natural number in an `int` is stored as it is. -/
theorem sizeOfInt_natCast {number : Nat} (fits : number < intBound) :
    sizeOfInt number = number := by
  unfold sizeOfInt
  unfold intBound at fits
  omega

namespace WildCardName

/-- A pattern is read from every text with a slash. -/
theorem ofText_of_slash {before rest : List Char} (absent : '/' ∉ before) {str : String}
    (split : str.toList = before ++ '/' :: rest) :
    ofText str = .ok ⟨⟨(rest.splitOn '/').map componentOf⟩, timesOf before⟩ := by
  -- The first slash is behind the text without one, and the components start right after it.
  have place := idxOf?_append_cons absent rest
  have taken : (before ++ '/' :: rest).take before.length = before := List.take_left
  have dropped : (before ++ '/' :: rest).drop (before.length + 1) = rest := by
    rw [← List.drop_drop, List.drop_left]
    rfl
  simp only [ofText, split, place, taken, dropped]

/-- A text is refused exactly when it has no slash. -/
theorem exists_ofText_iff {str : String} :
    (∃ pattern, ofText str = .ok pattern) ↔ '/' ∈ str.toList := by
  -- The code looks for the first slash, and `substr` is called with its place.
  constructor
  · intro ⟨pattern, read⟩
    by_contra absent
    have nowhere : str.toList.idxOf? '/' = none := List.idxOf?_eq_none_iff.mpr absent
    simp [ofText, nowhere] at read
  · intro present
    obtain ⟨before, rest, split, absent⟩ := List.eq_append_cons_of_mem present
    exact ⟨_, ofText_of_slash absent split⟩

/-- Without an `x` in front of the first slash a pattern is asked for once. -/
theorem timesOf_of_not_mem {front : List Char} (absent : 'x' ∉ front) : timesOf front = 1 := by
  have nowhere : front.idxOf? 'x' = none := List.idxOf?_eq_none_iff.mpr absent
  simp only [timesOf, nowhere]

/-- A quantifying number is taken over where an `int` holds it, and is one otherwise. -/
theorem timesOf_numeral {numeral : List Char} {number : Nat}
    (spells : Numeral.Spells numeral (number : Nat)) :
    timesOf (numeral ++ ['x']) = if number < intBound then number else 1 := by
  -- The numeral ends at the first `x`, and `stoi` throws where an `int` does not hold it.
  have place := idxOf?_append_cons spells.not_mem []
  have taken : (numeral ++ ['x']).take numeral.length = numeral := List.take_left
  obtain ⟨rest, read⟩ := spells.readInt_eq
  have converted : stoi numeral = if fitsInt number then some (number : Int) else none := by
    simp only [stoi, read]
  simp only [timesOf, place, taken, converted]
  by_cases fits : number < intBound
  · have holds : fitsInt number = true := fitsInt_natCast.mpr fits
    rw [if_pos fits, if_pos holds]
    exact sizeOfInt_natCast fits
  · have fails : ¬ fitsInt number = true := fun holds => fits (fitsInt_natCast.mp holds)
    rw [if_neg fits, if_neg fails]

end WildCardName

namespace SchemaSection

/-- The loader accepts a configuration with a packet name, a rule and a slash in every pattern. -/
structure Loads (config : SchemaSection) : Prop where
  nonempty : config.children ≠ []
  ruleId : config.getText configRuleId "" ≠ ""
  pktName : '/' ∈ (config.getText configPktName "").toList
  signers : ∀ entry ∈ config.entries configAllOf, '/' ∈ entry.toList
  optionalSigners : ∀ entry ∈ config.entries configAtLeast, '/' ∈ entry.toList

/-- The fields of a loaded schema. -/
structure LoadedAs (config : SchemaSection) (schema : MultipartySchema) : Prop where
  pktName : WildCardName.ofText (config.getText configPktName "") = .ok schema.pktName
  ruleId : schema.ruleId = config.getText configRuleId ""
  signers : (config.entries configAllOf).map WildCardName.ofText = schema.signers.map .ok
  optionalSigners :
    (config.entries configAtLeast).map WildCardName.ofText = schema.optionalSigners.map .ok
  minimum : schema.minOptionalSigners = sizeOfInt (config.getInt configAtLeastNum 0)

/-- Texts with slashes are patterns one by one. -/
theorem exists_patterns {entries : List String} (slashes : ∀ entry ∈ entries, '/' ∈ entry.toList) :
    ∃ patterns : List WildCardName, entries.map WildCardName.ofText = patterns.map .ok := by
  -- Induction on the texts, of which the loader reads one after the other.
  induction entries with
  | nil => exact ⟨[], rfl⟩
  | cons entry rest ih =>
    obtain ⟨pattern, read⟩ := WildCardName.exists_ofText_iff.mpr (slashes entry List.mem_cons_self)
    obtain ⟨patterns, others⟩ := ih fun other member =>
      slashes other (List.mem_cons_of_mem _ member)
    exact ⟨pattern :: patterns, by rw [List.map_cons, read, others, List.map_cons]⟩

/-- A text that reads as a pattern has a slash. -/
theorem slash_of_patterns {entries : List String} {patterns : List WildCardName}
    (read : entries.map WildCardName.ofText = patterns.map .ok) :
    ∀ entry ∈ entries, '/' ∈ entry.toList := by
  -- Each text is read as one of the patterns.
  intro entry member
  have image : WildCardName.ofText entry ∈ patterns.map (Except.ok (ε := Fault)) :=
    read ▸ List.mem_map_of_mem member
  obtain ⟨pattern, -, same⟩ := List.mem_map.mp image
  exact WildCardName.exists_ofText_iff.mp ⟨pattern, same.symm⟩

/-- The loader returns a schema exactly when the configuration loads as its fields. -/
theorem fromSchemaSection_eq_ok_iff {config : SchemaSection} {schema : MultipartySchema} :
    fromSchemaSection config = .ok schema ↔ config.Loads ∧ config.LoadedAs schema := by
  unfold fromSchemaSection
  by_cases missing : (config.children.isEmpty || config.getText configPktName "" == "" ||
      config.getText configRuleId "" == "") = true
  · -- `parseAssert` throws before anything is read.
    rw [if_pos missing]
    constructor
    · intro impossible
      cases impossible
    · intro ⟨loads, _⟩
      simp only [Bool.or_eq_true, List.isEmpty_iff, beq_iff_eq] at missing
      -- Each of the three missing parts contradicts a condition for loading.
      rcases missing with (empty | noName) | noRule
      · exact absurd empty loads.nonempty
      · have slash := loads.pktName
        rw [noName] at slash
        cases slash
      · exact absurd noRule loads.ruleId
  · rw [if_neg missing]
    simp only [Bool.or_eq_true, List.isEmpty_iff, beq_iff_eq, not_or] at missing
    obtain ⟨⟨nonempty, -⟩, ruleId⟩ := missing
    simp only [Bind.bind, Except.bind]
    constructor
    · -- Every pattern has been read, or the loader has thrown at the first that cannot be.
      intro loaded
      cases pktName : WildCardName.ofText (config.getText configPktName "") with
      | error fault => simp [pktName] at loaded
      | ok pattern =>
        cases signers : (config.entries configAllOf).mapM WildCardName.ofText with
        | error fault => simp [pktName, signers] at loaded
        | ok required =>
          cases others : (config.entries configAtLeast).mapM WildCardName.ofText with
          | error fault => simp [pktName, signers, others] at loaded
          | ok optional =>
            simp only [pktName, signers, others, Except.ok.injEq] at loaded
            subst loaded
            have read := mapM_ok_iff.mp signers
            have readOthers := mapM_ok_iff.mp others
            exact ⟨⟨nonempty, ruleId, WildCardName.exists_ofText_iff.mp ⟨pattern, pktName⟩,
              slash_of_patterns read, slash_of_patterns readOthers⟩,
              ⟨pktName, rfl, read, readOthers, rfl⟩⟩
    · intro ⟨loads, fields⟩
      have signers := mapM_ok_iff.mpr fields.signers
      have others := mapM_ok_iff.mpr fields.optionalSigners
      simp only [fields.pktName, signers, others, ← fields.ruleId, ← fields.minimum]

/-- A configuration that loads gives a schema. -/
theorem Loads.exists_schema {config : SchemaSection} (loads : config.Loads) :
    ∃ schema, fromSchemaSection config = .ok schema := by
  -- Everything else has a default, so nothing more can be missing.
  obtain ⟨pktName, read⟩ := WildCardName.exists_ofText_iff.mpr loads.pktName
  obtain ⟨signers, required⟩ := exists_patterns loads.signers
  obtain ⟨optionalSigners, optional⟩ := exists_patterns loads.optionalSigners
  exact ⟨⟨pktName, _, signers, optionalSigners, _⟩,
    fromSchemaSection_eq_ok_iff.mpr ⟨loads, ⟨read, rfl, required, optional, rfl⟩⟩⟩

end SchemaSection

end NdnMps
