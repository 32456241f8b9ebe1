import NdnMps.Libraries.Info
import NdnMps.Ndn.Uri
import NdnMps.Schema.Loader

/-! What is left of a schema that is written out and loaded again. -/

namespace NdnMps

/-- A map leaves a list alone exactly when it leaves every element alone. -/
theorem map_eq_self_iff {α : Type*} {map : α → α} {list : List α} :
    list.map map = list ↔ ∀ element ∈ list, map element = element := by
  conv_lhs => rhs; rw [← List.map_id list]
  exact List.map_inj_left

namespace WildCardName

/-- The pattern read from the URI that a pattern is written as. -/
def rewritten (componentUri : Component → String) (pattern : WildCardName) : WildCardName :=
  ⟨⟨pattern.name.components.map fun component => componentOf (componentUri component).toList⟩, 1⟩

/-- A pattern that is asked for once, and all of whose components stand in a URI as they are. -/
def Plain (pattern : WildCardName) : Prop :=
  pattern.times = 1 ∧ ∀ component ∈ pattern.name.components, component.Plain

variable {tlv : Tlv} {componentUri : Component → String}

/-- The URI of a name is read component by component. -/
theorem ofText_toUri (uris : tlv.WritesUris componentUri) {pattern : WildCardName}
    (nonempty : pattern.name.components ≠ []) :
    ofText (tlv.toUri pattern.name) = .ok (pattern.rewritten componentUri) := by
  -- Nothing stands in front of the first slash, and the others are between the components.
  have written := uris.toUri_eq pattern.name nonempty
  have listed : pattern.name.components.flatMap
      (fun component => '/' :: (componentUri component).toList) =
        (pattern.name.components.map fun component => (componentUri component).toList).flatMap
          fun part => '/' :: part := by
    rw [List.flatMap_map]
  rw [listed] at written
  have texts : ∀ text ∈ pattern.name.components.map (fun component =>
      (componentUri component).toList), '/' ∉ text := by
    intro text member
    obtain ⟨component, -, same⟩ := List.mem_map.mp member
    rw [← same]
    exact uris.no_slash component
  have some : pattern.name.components.map (fun component =>
      (componentUri component).toList) ≠ [] := by
    rwa [ne_eq, List.map_eq_nil_iff]
  have divided := List.splitOn_intercalate '/' texts some
  generalize parts : pattern.name.components.map (fun component =>
    (componentUri component).toList) = list at written divided some
  cases list with
  | nil => exact absurd rfl some
  | cons text rest =>
    rw [flatMap_slash] at written
    have absent : '/' ∉ ([] : List Char) := List.not_mem_nil
    rw [ofText_of_slash absent written, divided, ← parts, List.map_map,
      timesOf_of_not_mem List.not_mem_nil]
    rfl

/-- A component is read back from a URI exactly when it is plain. -/
theorem componentOf_uri_iff (uris : tlv.WritesUris componentUri) (component : Component) :
    componentOf (componentUri component).toList = component ↔ component.Plain := by
  -- No URI of a component is the lone star, so only the octets and the type matter.
  unfold componentOf
  rw [if_neg (uris.not_star component), String.ofList_toList]
  constructor
  · intro same
    have generic : component.type = Component.genericType := (congrArg Component.type same).symm
    exact ⟨generic, (uris.octets_iff component generic).mp (congrArg Component.value same)⟩
  · intro ⟨generic, unreserved⟩
    rw [(uris.octets_iff component generic).mpr unreserved, ← generic]

/-- A pattern is read back from its URI exactly when it is plain. -/
theorem rewritten_eq_iff (uris : tlv.WritesUris componentUri) (pattern : WildCardName) :
    pattern.rewritten componentUri = pattern ↔ pattern.Plain := by
  -- The number of times is not written, so the pattern that is read has one.
  obtain ⟨⟨components⟩, times⟩ := pattern
  simp only [rewritten, Plain, mk.injEq, Name.mk.injEq]
  rw [and_comm, eq_comm]
  apply and_congr_right
  intro _
  constructor
  · intro same component member
    rw [← componentOf_uri_iff uris component]
    exact map_eq_self_iff.mp same component member
  · intro plain
    exact map_eq_self_iff.mpr fun component member =>
      (componentOf_uri_iff uris component).mpr (plain component member)

end WildCardName

namespace MultipartySchema

/-- The schema read from the text that a schema is written as. -/
def rewritten (componentUri : Component → String) (schema : MultipartySchema) :
    MultipartySchema where
  pktName := schema.pktName.rewritten componentUri
  ruleId := schema.ruleId
  signers := schema.signers.map (WildCardName.rewritten componentUri)
  optionalSigners := schema.optionalSigners.map (WildCardName.rewritten componentUri)
  minOptionalSigners := if schema.minOptionalSigners < intBound then schema.minOptionalSigners
    else 0

/-- An `int` holds the minimum, and every pattern is plain. -/
structure Plain (schema : MultipartySchema) : Prop where
  pktName : schema.pktName.Plain
  signers : ∀ pattern ∈ schema.signers, pattern.Plain
  optionalSigners : ∀ pattern ∈ schema.optionalSigners, pattern.Plain
  minimum : schema.minOptionalSigners < intBound

/-- What every loaded schema has: a rule, and components in every pattern. -/
structure Named (schema : MultipartySchema) : Prop where
  ruleId : schema.ruleId ≠ ""
  pktName : schema.pktName.name.components ≠ []
  signers : ∀ pattern ∈ schema.signers, pattern.name.components ≠ []
  optionalSigners : ∀ pattern ∈ schema.optionalSigners, pattern.name.components ≠ []

variable {tlv : Tlv} {componentUri : Component → String}

/-- A schema is read back exactly when it is plain. -/
theorem rewritten_eq_iff (uris : tlv.WritesUris componentUri) (schema : MultipartySchema) :
    schema.rewritten componentUri = schema ↔ schema.Plain := by
  have lists : ∀ patterns : List WildCardName,
      patterns.map (WildCardName.rewritten componentUri) = patterns ↔
        ∀ pattern ∈ patterns, pattern.Plain := by
    intro patterns
    rw [map_eq_self_iff]
    constructor
    · exact fun same pattern member =>
        (pattern.rewritten_eq_iff uris).mp (same pattern member)
    · exact fun plain pattern member =>
        (pattern.rewritten_eq_iff uris).mpr (plain pattern member)
  have number : (if schema.minOptionalSigners < intBound then schema.minOptionalSigners else 0) =
      schema.minOptionalSigners ↔ schema.minOptionalSigners < intBound := by
    unfold intBound
    split <;> omega
  -- The rule is kept in any case; every other field has a condition of its own.
  obtain ⟨pktName, ruleId, signers, optionalSigners, minimum⟩ := schema
  simp only [rewritten, mk.injEq, true_and]
  constructor
  · intro ⟨packet, required, optional, numbers⟩
    exact ⟨(pktName.rewritten_eq_iff uris).mp packet, (lists _).mp required,
      (lists _).mp optional, number.mp numbers⟩
  · intro plain
    exact ⟨(pktName.rewritten_eq_iff uris).mpr plain.pktName, (lists _).mpr plain.signers,
      (lists _).mpr plain.optionalSigners, number.mpr plain.minimum⟩

section Lookups

variable (tlv) (schema : MultipartySchema)

/-- The packet name in the written tree. -/
theorem getText_pktName :
    (schema.toSection tlv).getText configPktName "" = tlv.toUri schema.pktName.name := by
  rfl

/-- The rule in the written tree. -/
theorem getText_ruleId : (schema.toSection tlv).getText configRuleId "" = schema.ruleId := by
  rfl

/-- The required patterns in the written tree. -/
theorem entries_allOf : (schema.toSection tlv).entries configAllOf =
    schema.signers.map fun pattern => tlv.toUri pattern.name := by
  -- The children in front have other keys, and so has the one behind.
  unfold toSection
  cases required : schema.signers with
  | nil =>
    by_cases positive : 0 < schema.minOptionalSigners <;> cases schema.optionalSigners <;>
      simp only [positive, if_true, if_false] <;> rfl
  | cons pattern rest =>
    have written : (patternsNode tlv (pattern :: rest)).children.map (fun entry => entry.2.data) =
        (pattern :: rest).map fun pattern => tlv.toUri pattern.name := by
      simp only [patternsNode, SchemaSection.children, List.map_map]
      rfl
    rw [← written]
    by_cases positive : 0 < schema.minOptionalSigners <;>
      simp only [positive, if_true, if_false] <;> rfl

/-- The optional patterns in the written tree. -/
theorem entries_atLeast : (schema.toSection tlv).entries configAtLeast =
    schema.optionalSigners.map fun pattern => tlv.toUri pattern.name := by
  unfold toSection
  -- Without an optional pattern the list has no child in the tree.
  cases optional : schema.optionalSigners with
  | nil =>
    by_cases positive : 0 < schema.minOptionalSigners <;> cases schema.signers <;>
      simp only [positive, if_true, if_false] <;> rfl
  | cons pattern rest =>
    have written : (patternsNode tlv (pattern :: rest)).children.map (fun entry => entry.2.data) =
        (pattern :: rest).map fun pattern => tlv.toUri pattern.name := by
      simp only [patternsNode, SchemaSection.children, List.map_map]
      rfl
    rw [← written]
    by_cases positive : 0 < schema.minOptionalSigners <;> cases schema.signers <;>
      simp only [positive, if_true, if_false] <;> rfl

/-- The minimum in the written tree, which is read as an `int`. -/
theorem getInt_atLeastNum : sizeOfInt ((schema.toSection tlv).getInt configAtLeastNum 0) =
    if schema.minOptionalSigners < intBound then schema.minOptionalSigners else 0 := by
  by_cases positive : 0 < schema.minOptionalSigners
  · -- The minimum is written in decimal digits, and is read as far as an `int` holds it.
    have child : (schema.toSection tlv).getChild configAtLeastNum =
        some (.leaf schema.minOptionalSigners.repr) := by
      unfold toSection
      simp only [positive, if_true]
      rfl
    have read := Numeral.readWhole_eq_some_iff.mpr (Numeral.spells_repr schema.minOptionalSigners)
    have written : (SchemaSection.leaf schema.minOptionalSigners.repr).data =
        schema.minOptionalSigners.repr := rfl
    simp only [SchemaSection.getInt, child, written, read]
    by_cases fits : schema.minOptionalSigners < intBound
    · rw [if_pos fits, if_pos (fitsInt_natCast.mpr fits)]
      exact sizeOfInt_natCast fits
    · rw [if_neg fits, if_neg fun holds => fits (fitsInt_natCast.mp holds)]
      rfl
  · -- Nothing is written, and the reader's default is the value that was left out.
    have zero : schema.minOptionalSigners = 0 := by omega
    have child : (schema.toSection tlv).getChild configAtLeastNum = none := by
      unfold toSection
      cases schema.signers <;> cases schema.optionalSigners <;>
        simp only [zero, Nat.lt_irrefl, if_false] <;> rfl
    simp only [SchemaSection.getInt, child, zero]
    rfl

end Lookups

/-- A list is loaded as the patterns that its entries are read as. -/
theorem ofText_toUris (uris : tlv.WritesUris componentUri) {patterns : List WildCardName}
    (nonempty : ∀ pattern ∈ patterns, pattern.name.components ≠ []) :
    (patterns.map fun pattern => tlv.toUri pattern.name).map WildCardName.ofText =
      (patterns.map (WildCardName.rewritten componentUri)).map .ok := by
  rw [List.map_map, List.map_map]
  apply List.map_congr_left
  intro pattern member
  exact WildCardName.ofText_toUri uris (nonempty pattern member)

/-- The written tree of a schema loads as the schema read from its text. -/
theorem fromSchemaSection_toSection (uris : tlv.WritesUris componentUri)
    {schema : MultipartySchema} (named : schema.Named) :
    fromSchemaSection (schema.toSection tlv) = .ok (schema.rewritten componentUri) := by
  -- What was written is what the reader finds under each key.
  have required := ofText_toUris uris named.signers
  have optional := ofText_toUris uris named.optionalSigners
  have packet := WildCardName.ofText_toUri uris named.pktName
  rw [← entries_allOf] at required
  rw [← entries_atLeast] at optional
  rw [← getText_pktName] at packet
  rw [SchemaSection.fromSchemaSection_eq_ok_iff]
  refine ⟨⟨?_, ?_, ?_, ?_, ?_⟩, ⟨packet, ?_, required, optional, ?_⟩⟩
  · -- The packet name and the rule are always written.
    intro empty
    cases empty
  · rw [getText_ruleId]
    exact named.ruleId
  · exact WildCardName.exists_ofText_iff.mp ⟨_, packet⟩
  · exact SchemaSection.slash_of_patterns required
  · exact SchemaSection.slash_of_patterns optional
  · exact (getText_ruleId tlv schema).symm
  · exact (getInt_atLeastNum tlv schema).symm

/-- A loaded schema has a rule, and components in every pattern. -/
theorem named_of_loaded {config : SchemaSection} {schema : MultipartySchema}
    (loaded : fromSchemaSection config = .ok schema) : schema.Named := by
  obtain ⟨loads, fields⟩ := SchemaSection.fromSchemaSection_eq_ok_iff.mp loaded
  -- A text with a slash splits into at least one component behind it.
  have components : ∀ {text pattern}, WildCardName.ofText text = .ok pattern →
      pattern.name.components ≠ [] := by
    intro text pattern read
    obtain ⟨before, rest, split, absent⟩ := List.eq_append_cons_of_mem
      (WildCardName.exists_ofText_iff.mp ⟨pattern, read⟩)
    rw [WildCardName.ofText_of_slash absent split, Except.ok.injEq] at read
    rw [← read]
    simp only [ne_eq, List.map_eq_nil_iff]
    exact List.splitOn_ne_nil _ _
  have listed : ∀ {entries : List String} {patterns : List WildCardName},
      entries.map WildCardName.ofText = patterns.map .ok →
      ∀ pattern ∈ patterns, pattern.name.components ≠ [] := by
    intro entries patterns read pattern member
    have image : Except.ok (ε := Fault) pattern ∈ entries.map WildCardName.ofText :=
      read ▸ List.mem_map_of_mem member
    obtain ⟨text, -, same⟩ := List.mem_map.mp image
    exact components same
  refine ⟨?_, components fields.pktName, listed fields.signers, listed fields.optionalSigners⟩
  rw [fields.ruleId]
  exact loads.ruleId

/-- Whatever the loaders return comes from a tree. -/
theorem exists_section {boost : Boost} {text : String} {schema : MultipartySchema}
    (loaded : fromINFO boost text = .ok schema ∨ fromJSON boost text = .ok schema) :
    ∃ config, fromSchemaSection config = .ok schema := by
  -- Both loaders read a tree first, and hand it to the same function.
  rcases loaded with info | json
  · cases read : readConfig boost boost.readInfo text with
    | error fault => simp [fromINFO, read, Bind.bind, Except.bind] at info
    | ok config =>
      refine ⟨config, ?_⟩
      simpa only [fromINFO, read, Bind.bind, Except.bind] using info
  · cases read : readConfig boost boost.readJson text with
    | error fault => simp [fromJSON, read, Bind.bind, Except.bind] at json
    | ok config =>
      refine ⟨config, ?_⟩
      simpa only [fromJSON, read, Bind.bind, Except.bind] using json

/-- A schema comes back from the text that it is written as, and so do its answers. -/
def Reloads (boost : Boost) (tlv : Tlv) (schema : MultipartySchema) : Prop :=
  ∃ reloaded, fromINFO boost (schema.toString boost tlv) = .ok reloaded ∧ reloaded = schema ∧
    ∀ packetName signers, reloaded.match packetName = schema.match packetName ∧
      reloaded.passSchema signers = schema.passSchema signers

/-- A loaded schema comes back from its text exactly when an `int` holds its minimum and each of
its patterns is plain. -/
theorem reloads_iff (uris : tlv.WritesUris componentUri) {boost : Boost} {text : String}
    {schema : MultipartySchema}
    (loaded : fromINFO boost text = .ok schema ∨ fromJSON boost text = .ok schema)
    (reads : boost.readInfo (boost.writeInfo (schema.toSection tlv)) = some (schema.toSection tlv))
    (noFile : boost.file (schema.toString boost tlv) = none) :
    schema.Reloads boost tlv ↔ schema.Plain := by
  obtain ⟨config, accepted⟩ := exists_section loaded
  have written := fromSchemaSection_toSection uris (named_of_loaded accepted)
  -- No file has the text as its name, so the text itself is read.
  have tree : readConfig boost boost.readInfo (schema.toString boost tlv) =
      .ok (schema.toSection tlv) := by
    unfold readConfig
    rw [noFile]
    simp only [Option.bind_none, toString, reads]
  have again : fromINFO boost (schema.toString boost tlv) =
      .ok (schema.rewritten componentUri) := by
    simp only [fromINFO, tree, Bind.bind, Except.bind, written]
  rw [← rewritten_eq_iff uris schema]
  constructor
  · intro ⟨reloaded, read, same, _⟩
    rw [again, Except.ok.injEq] at read
    rw [read, same]
  · intro same
    exact ⟨schema, by rw [again, same], rfl, fun _ _ => ⟨rfl, rfl⟩⟩

/-- A configuration with one required pattern. -/
def oneRequired (pattern : String) : SchemaSection :=
  .node "" [(configPktName, .leaf "/example/data"), (configRuleId, .leaf "rule"),
    (configAllOf, .node "" [("", .leaf pattern)])]

/-- A key asked for once, without a wildcard. -/
def literalSchema : MultipartySchema where
  pktName := .ofName (.ofTexts ["example", "data"])
  ruleId := "rule"
  signers := [.ofName (.ofTexts ["example", "a", "KEY", "1"])]
  optionalSigners := []
  minOptionalSigners := 0

/-- Three keys of any identifier. -/
def quantifiedSchema : MultipartySchema :=
  { literalSchema with
    signers := [⟨(Name.ofTexts ["example", "a", "KEY"]).append ⟨wildcardNameType, []⟩, 3⟩] }

open Reference

/-- A literal pattern comes back. -/
theorem reloads_iff_literal :
    literalSchema.Reloads (boost [oneRequired "/example/a/KEY/1"]) PacketFormat.tlv ↔
      literalSchema.Plain := by
  -- The tree of the text is small enough to be evaluated.
  have loaded : fromINFO (boost [oneRequired "/example/a/KEY/1"])
      (writeInfo (oneRequired "/example/a/KEY/1")) = .ok literalSchema := by decide +kernel
  exact reloads_iff PacketFormat.tlv_writesUris (.inl loaded) (by rfl) (by rfl)

/-- Neither the wildcard nor the number in front comes back, and two signers fewer are enough. -/
theorem quantifiedSchema_not_reloads :
    let known := [oneRequired "3x/example/a/KEY/*", quantifiedSchema.toSection PacketFormat.tlv]
    let text := quantifiedSchema.toString (boost known) PacketFormat.tlv
    fromINFO (boost known) (writeInfo (oneRequired "3x/example/a/KEY/*")) = .ok quantifiedSchema ∧
      (boost known).readInfo text = some (quantifiedSchema.toSection PacketFormat.tlv) ∧
      (boost known).file text = none ∧
      (∃ reloaded, fromINFO (boost known) text = .ok reloaded ∧
        reloaded.signers.map WildCardName.times = [1] ∧
        quantifiedSchema.passSchema [.ofTexts ["example", "a", "KEY", "65534=..."]] = false ∧
        reloaded.passSchema [.ofTexts ["example", "a", "KEY", "65534=..."]] = true) ∧
      ¬ quantifiedSchema.Reloads (boost known) PacketFormat.tlv := by
  intro known text
  have again : fromINFO (boost known) text = .ok { quantifiedSchema with
      signers := [.ofName (.ofTexts ["example", "a", "KEY", "65534=..."])] } := by decide +kernel
  refine ⟨by decide +kernel, by rfl, by rfl, ⟨_, again, by decide +kernel⟩, ?_⟩
  intro ⟨reloaded, read, same, _⟩
  -- The patterns of the two schemas differ.
  rw [same, again, Except.ok.injEq] at read
  have differ : quantifiedSchema.signers.map WildCardName.times ≠ [1] := by decide
  exact differ (by rw [← read]; rfl)

end MultipartySchema

end NdnMps
