import Mathlib.Data.List.Basic

/-! Sequences of elements with a type, a length and a value, over a self-delimiting number code. -/

/-- A code for numbers that shows where a number ends. -/
structure NumberCode (α : Type*) where
  encode : Nat → List α
  /-- The number in front of a text, and the text behind it. -/
  decode : List α → Option (Nat × List α)
  decode_encode : ∀ number rest, decode (encode number ++ rest) = some (number, rest)
  /-- Every number takes at least one letter. -/
  length_lt : ∀ text number rest, decode text = some (number, rest) → rest.length < text.length

namespace NumberCode

variable {α : Type*} (code : NumberCode α)

/-- No number is written in no letters. -/
theorem encode_ne_nil (number : Nat) : code.encode number ≠ [] := by
  intro empty
  -- Such a number would be read from a text without using any of it.
  have read := code.decode_encode number []
  rw [empty, List.nil_append] at read
  exact absurd (code.length_lt _ _ _ read) (Nat.lt_irrefl _)

/-- The type, the length and the value of an element. -/
def encodeElement (element : Nat × List α) : List α :=
  code.encode element.1 ++ (code.encode element.2.length ++ element.2)

/-- The element in front of a text, and the text behind it. -/
def takeElement (text : List α) : Option ((Nat × List α) × List α) :=
  match code.decode text with
  | none => none
  | some (type, rest) =>
    match code.decode rest with
    | none => none
    | some (length, rest) =>
      if rest.length < length then none
      else some ((type, rest.take length), rest.drop length)

/-- An element is taken off whatever follows it. -/
theorem takeElement_encodeElement (element : Nat × List α) (rest : List α) :
    code.takeElement (code.encodeElement element ++ rest) = some (element, rest) := by
  -- The two numbers are read one after the other, and the value has the length just read.
  have room : ¬ (element.2 ++ rest).length < element.2.length := by
    rw [List.length_append]
    omega
  simp only [takeElement, encodeElement, List.append_assoc, code.decode_encode, if_neg room,
    List.take_left, List.drop_left]

/-- Taking an element leaves a shorter text. -/
theorem length_takeElement {text rest : List α} {element : Nat × List α}
    (taken : code.takeElement text = some (element, rest)) : rest.length < text.length := by
  -- Two numbers are taken off the front, and then the value.
  unfold takeElement at taken
  cases first : code.decode text with
  | none => simp [first] at taken
  | some head =>
    cases second : code.decode head.2 with
    | none => simp [first, second] at taken
    | some length =>
      have shorter := code.length_lt _ _ _ first
      have shorterStill := code.length_lt _ _ _ second
      simp only [first, second] at taken
      split at taken
      · cases taken
      · -- What is left of the value's text is no longer than all of it.
        cases taken
        rw [List.length_drop]
        omega

/-- The elements of a sequence one after the other. -/
def encodeAll (elements : List (Nat × List α)) : List α := elements.flatMap code.encodeElement

/-- The elements that fill a text, unless it is cut off. -/
def parseAll (text : List α) : Option (List (Nat × List α)) :=
  if text.isEmpty then some []
  else
    match _taken : code.takeElement text with
    | none => none
    | some (element, rest) => (parseAll rest).map fun others => element :: others
termination_by text.length
decreasing_by exact code.length_takeElement ‹_›

@[simp] theorem parseAll_nil : code.parseAll [] = some [] := by
  rw [parseAll]
  rfl

/-- A text that is not empty begins with an element. -/
theorem parseAll_of_ne_nil {text : List α} (nonempty : text ≠ []) :
    code.parseAll text = (code.takeElement text).bind fun found =>
      (code.parseAll found.2).map fun others => found.1 :: others := by
  -- The function takes one element and goes on with what is left.
  rw [parseAll, if_neg (by simpa using nonempty)]
  split
  · rename_i absent
    rw [absent]
    rfl
  · rename_i taken
    rw [taken]
    rfl

/-- A sequence is read back element by element. -/
theorem parseAll_encodeAll (elements : List (Nat × List α)) :
    code.parseAll (code.encodeAll elements) = some elements := by
  -- Induction on the sequence: its first element is taken off, and the others are left.
  induction elements with
  | nil => exact code.parseAll_nil
  | cons element rest ih =>
    have written : code.encodeAll (element :: rest) =
        code.encodeElement element ++ code.encodeAll rest := List.flatMap_cons
    have nonempty : code.encodeElement element ++ code.encodeAll rest ≠ [] := by
      intro empty
      have front := (List.append_eq_nil_iff.mp empty).1
      exact code.encode_ne_nil _ (List.append_eq_nil_iff.mp front).1
    rw [written, code.parseAll_of_ne_nil nonempty, code.takeElement_encodeElement]
    simp only [Option.bind_some, ih, Option.map_some]

end NumberCode
