import NdnMps.Schema.Config

/-! The INFO format that property trees are written in. -/

namespace NdnMps

namespace Reference

/-- A word stands as it is, unless it is empty or has a character with a meaning of its own. -/
def infoWord (word : String) : String :=
  if word.isEmpty || word.toList.any (fun char => char ∈ " \t\x7b\x7d;\n\"".toList) then
    "\"" ++ word ++ "\""
  else word

/-- The spaces in front of a line. -/
def infoIndent (depth : Nat) : String := String.ofList (List.replicate (4 * depth) ' ')

mutual

/-- The data of a node behind its key, and its children in braces. -/
def infoNode (depth : Nat) : SchemaSection → String
  | .node data [] => " " ++ infoWord data ++ "\n"
  | .node data (child :: rest) =>
    (if data.isEmpty then "" else " " ++ infoWord data) ++ "\n" ++ infoIndent depth ++ "\x7b\n" ++
      infoChildren (depth + 1) (child :: rest) ++ infoIndent depth ++ "\x7d\n"

/-- Some children, each on lines of its own. -/
def infoChildren (depth : Nat) : List (String × SchemaSection) → String
  | [] => ""
  | child :: rest => infoChild depth child ++ infoChildren depth rest

/-- A child behind its key. -/
def infoChild (depth : Nat) : String × SchemaSection → String
  | (key, child) => infoIndent depth ++ infoWord key ++ infoNode depth child

end

/-- `write_info`: the children of the root, whose data is left out. -/
def writeInfo (config : SchemaSection) : String := infoChildren 0 config.children

/-- A reader of some known trees, without any file. -/
def boost (known : List SchemaSection) : Boost where
  readInfo text := known.find? fun config => writeInfo config == text
  readJson _ := none
  writeInfo := writeInfo
  file _ := none

end Reference

end NdnMps
