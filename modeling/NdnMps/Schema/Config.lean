import NdnMps.Data.Numeral
import NdnMps.Schema

/-! Schemas in configuration text: property trees, the loader, and the writer. A text of the source
is a text here with one character for each octet. -/

namespace NdnMps

/-- The least number above those that an `int` holds, two to the power of 31. -/
def intBound : Nat := 2147483648

/-- The numbers an `int` holds. -/
def fitsInt (number : Int) : Bool := decide (-(intBound : Int) ≤ number ∧ number < intBound)

/-- A number stored as `size_t`, modulo two to the power of 64. -/
def sizeOfInt (number : Int) : Nat := (number % 18446744073709551616).toNat

/-- `std::stoi`, unless it throws: text behind the number is ignored. -/
def stoi (text : List Char) : Option Int :=
  match Numeral.readInt text with
  -- What stands behind the digits is left unread.
  | some (number, _) => if fitsInt number then some number else none
  | none => none

/-- `boost::property_tree::ptree`: a text, and children under their keys. -/
inductive SchemaSection where
  | node (data : String) (children : List (String × SchemaSection))

namespace SchemaSection

/-- The text of a node. -/
def data : SchemaSection → String
  | .node data _ => data

/-- The children of a node with their keys, in order. -/
def children : SchemaSection → List (String × SchemaSection)
  | .node _ children => children

/-- A node without children. -/
def leaf (data : String) : SchemaSection := .node data []

/-- `get_child_optional`: the first child under a key. -/
def getChild (config : SchemaSection) (key : String) : Option SchemaSection :=
  (config.children.find? fun child => child.1 == key).map Prod.snd

/-- `get` of a text, with a default where the key is missing. -/
def getText (config : SchemaSection) (key default : String) : String :=
  match config.getChild key with
  | some child => child.data
  | none => default

/-- `get` of an `int`, with a default where the key is missing or its text does not convert. -/
def getInt (config : SchemaSection) (key : String) (default : Int) : Int :=
  match config.getChild key with
  | some child =>
    match Numeral.readWhole child.data.toList with
    | some number => if fitsInt number then number else default
    | none => default
  | none => default

/-- The texts of a list of children, or of no child where the key is missing. -/
def entries (config : SchemaSection) (key : String) : List String :=
  match config.getChild key with
  | some child => child.children.map fun entry => entry.2.data
  | none => []

end SchemaSection

/-! Keys of a configuration. -/

def configPktName : String := "pkt-name"
def configRuleId : String := "rule-id"
def configAllOf : String := "all-of"
def configAtLeastNum : String := "at-least-num"
def configAtLeast : String := "at-least"

namespace WildCardName

/-- The component a part of a pattern's text stands for. -/
def componentOf (compStr : List Char) : Component :=
  if compStr = ['*'] then ⟨wildcardNameType, []⟩
  else ⟨Component.genericType, asciiBytes (String.ofList compStr)⟩

/-- The times in front of a pattern's first slash: one unless there is an `x` behind a number. -/
def timesOf (front : List Char) : Nat :=
  match front.idxOf? 'x' with
  | none => 1
  | some xPos =>
    -- Whatever `stoi` throws is caught.
    match stoi (front.take xPos) with
    | some times => sizeOfInt times
    | none => 1

/-- `WildCardName(const std::string&)`, with an exception on a text without a slash. -/
def ofText (str : String) : Except Fault WildCardName :=
  match str.toList.idxOf? '/' with
  | none => .error .exception
  | some slashPos =>
    let tempStr := str.toList.drop (slashPos + 1)
    .ok ⟨⟨(tempStr.splitOn '/').map componentOf⟩, timesOf (str.toList.take slashPos)⟩

end WildCardName

/-- `fromSchemaSection`. -/
def fromSchemaSection (config : SchemaSection) : Except Fault MultipartySchema := do
  -- `parseAssert` throws, and so does the first pattern without a slash.
  if config.children.isEmpty || config.getText configPktName "" == "" ||
      config.getText configRuleId "" == "" then
    .error .exception
  let pktName ← WildCardName.ofText (config.getText configPktName "")
  let minOptionalSigners := sizeOfInt (config.getInt configAtLeastNum 0)
  let signers ← (config.entries configAllOf).mapM WildCardName.ofText
  let optionalSigners ← (config.entries configAtLeast).mapM WildCardName.ofText
  .ok ⟨pktName, config.getText configRuleId "", signers, optionalSigners, minOptionalSigners⟩

/-- The parsers and the writer of property trees, and the files they may read. -/
structure Boost where
  readInfo : String → Option SchemaSection
  readJson : String → Option SchemaSection
  writeInfo : SchemaSection → String
  /-- The content of a file, where there is one of the name. -/
  file : String → Option String

namespace MultipartySchema

/-- The tree in a file of the name given, or else in the text itself. -/
def readConfig (boost : Boost) (read : String → Option SchemaSection) (fileOrConfigStr : String) :
    Except Fault SchemaSection :=
  -- as filename
  match (boost.file fileOrConfigStr).bind read with
  | some config => .ok config
  | none =>
    match read fileOrConfigStr with
    | some config => .ok config
    | none => .error .exception

/-- `MultipartySchema::fromJSON`. -/
def fromJSON (boost : Boost) (fileOrConfigStr : String) : Except Fault MultipartySchema := do
  let config ← readConfig boost boost.readJson fileOrConfigStr
  fromSchemaSection config

/-- `MultipartySchema::fromINFO`. -/
def fromINFO (boost : Boost) (fileOrConfigStr : String) : Except Fault MultipartySchema := do
  let config ← readConfig boost boost.readInfo fileOrConfigStr
  fromSchemaSection config

/-- The unnamed nodes of some patterns. -/
def patternsNode (tlv : Tlv) (patterns : List WildCardName) : SchemaSection :=
  .node "" (patterns.map fun pattern => ("", .leaf (tlv.toUri pattern.name)))

/-- The tree that `MultipartySchema::toString` writes. -/
def toSection (tlv : Tlv) (schema : MultipartySchema) : SchemaSection :=
  .node "" ([(configPktName, .leaf (tlv.toUri schema.pktName.name)),
      (configRuleId, .leaf schema.ruleId)] ++
    ((if 0 < schema.minOptionalSigners then
      [(configAtLeastNum, .leaf schema.minOptionalSigners.repr)] else []) ++
    ((if schema.signers.isEmpty then [] else [(configAllOf, patternsNode tlv schema.signers)]) ++
      if schema.optionalSigners.isEmpty then []
      else [(configAtLeast, patternsNode tlv schema.optionalSigners)])))

/-- `MultipartySchema::toString`. -/
def toString (boost : Boost) (tlv : Tlv) (schema : MultipartySchema) : String :=
  boost.writeInfo (schema.toSection tlv)

end MultipartySchema

end NdnMps
