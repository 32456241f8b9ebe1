import Mathlib.Data.Nat.Basic
import Mathlib.Data.Int.Basic
import Mathlib.Data.List.TakeWhile

/-! Integers in decimal text, with a sign, and with white space around them. -/

namespace Numeral

/-- The characters skipped in front of a number. -/
def isSpace (char : Char) : Bool := char ∈ [' ', '\t', '\n', '\x0b', '\x0c', '\r']

/-- The number that some digits stand for. -/
def value (digits : List Char) : Nat := Nat.ofDigitChars 10 digits 0

/-- A number with the sign in front of its digits. -/
def signed (negative : Bool) (digits : List Char) : Int :=
  if negative then -(value digits : Int) else value digits

/-- Whether a number starts with a minus sign, and its digits with whatever follows. -/
def readSign : List Char → Bool × List Char
  | '-' :: rest => (true, rest)
  | '+' :: rest => (false, rest)
  | text => (false, text)

/-- The number a text starts with, and the text behind it. -/
def readInt (text : List Char) : Option (Int × List Char) :=
  let (negative, text) := readSign (text.dropWhile isSpace)
  let digits := text.takeWhile Char.isDigit
  if digits.isEmpty then none
  else some (signed negative digits, text.dropWhile Char.isDigit)

/-- The number that fills a text but for white space. -/
def readWhole (text : List Char) : Option Int :=
  match readInt text with
  | some (number, rest) => if rest.all isSpace then some number else none
  | none => none

/-- A text is the numeral of a number: white space, a sign, digits, and white space again. -/
def Spells (text : List Char) (number : Int) : Prop :=
  ∃ before sign digits after, text = before ++ (sign ++ (digits ++ after)) ∧
    (∀ char ∈ before, isSpace char = true) ∧ (∀ char ∈ after, isSpace char = true) ∧
    digits ≠ [] ∧ (∀ char ∈ digits, char.isDigit = true) ∧
    (sign = ['-'] ∧ number = -(value digits : Int) ∨
      (sign = [] ∨ sign = ['+']) ∧ number = value digits)

/-- A digit is neither white space nor a sign. -/
theorem not_isSpace_of_isDigit {char : Char} (digit : char.isDigit = true) :
    isSpace char = false ∧ char ≠ '-' ∧ char ≠ '+' := by
  -- All of these characters come before the digits or after them.
  refine ⟨?_, ?_, ?_⟩
  · cases space : isSpace char with
    | false => rfl
    | true =>
      simp only [isSpace, List.mem_cons, List.not_mem_nil, or_false, decide_eq_true_eq] at space
      rcases space with same | same | same | same | same | same <;>
        · rw [same] at digit
          cases digit
  · intro same
    rw [same] at digit
    cases digit
  · intro same
    rw [same] at digit
    cases digit

/-- No digit is left in front where only white space follows. -/
theorem dropWhile_isDigit_of_isSpace {text : List Char}
    (spaces : ∀ char ∈ text, isSpace char = true) :
    text.takeWhile Char.isDigit = [] ∧ text.dropWhile Char.isDigit = text := by
  -- Only the first character decides, and white space is no digit.
  cases text with
  | nil => exact ⟨rfl, rfl⟩
  | cons char rest =>
    have noDigit : char.isDigit = false := by
      cases digit : char.isDigit with
      | false => rfl
      | true =>
        have space := spaces char List.mem_cons_self
        rw [(not_isSpace_of_isDigit digit).1] at space
        cases space
    exact ⟨List.takeWhile_cons_of_neg (by simp [noDigit]),
      List.dropWhile_cons_of_neg (by simp [noDigit])⟩

/-- White space in front is skipped up to the first other character. -/
theorem dropWhile_isSpace_append {before : List Char}
    (spaces : ∀ char ∈ before, isSpace char = true) {char : Char} {rest : List Char}
    (other : isSpace char = false) :
    (before ++ char :: rest).dropWhile isSpace = char :: rest := by
  rw [List.dropWhile_append_of_pos spaces, List.dropWhile_cons_of_neg (by simp [other])]

/-- The digits in front of something that starts with no digit are read whole. -/
theorem readInt_digits {digits after : List Char}
    (allDigits : ∀ char ∈ digits, char.isDigit = true)
    (none : after.takeWhile Char.isDigit = [] ∧ after.dropWhile Char.isDigit = after) :
    (digits ++ after).takeWhile Char.isDigit = digits ∧
      (digits ++ after).dropWhile Char.isDigit = after := by
  constructor
  · rw [List.takeWhile_append_of_pos allDigits, none.1, List.append_nil]
  · rw [List.dropWhile_append_of_pos allDigits, none.2]

/-- A numeral is read as the number it spells, up to where its digits end. -/
theorem readInt_eq {before sign digits after : List Char}
    (spaces : ∀ char ∈ before, isSpace char = true) (nonempty : digits ≠ [])
    (allDigits : ∀ char ∈ digits, char.isDigit = true)
    (none : after.takeWhile Char.isDigit = [] ∧ after.dropWhile Char.isDigit = after) :
    (sign = ['-'] → readInt (before ++ (sign ++ (digits ++ after))) =
        some (-(value digits : Int), after)) ∧
      (sign = [] ∨ sign = ['+'] → readInt (before ++ (sign ++ (digits ++ after))) =
        some ((value digits : Int), after)) := by
  obtain ⟨taken, dropped⟩ := readInt_digits allDigits none
  have present : digits.isEmpty = false := List.isEmpty_eq_false_iff.mpr nonempty
  have minus : isSpace '-' = false := by decide
  have plus : isSpace '+' = false := by decide
  constructor
  · intro same
    -- The minus is no white space, so the skipping stops in front of it.
    rw [same, List.singleton_append]
    simp only [readInt, dropWhile_isSpace_append spaces minus, readSign, taken, dropped, present,
      signed, if_true, Bool.false_eq_true, if_false]
  · rintro (same | same)
    · -- Without a sign the text goes on with its first digit.
      rw [same, List.nil_append]
      cases digits with
      | nil => exact absurd rfl nonempty
      | cons first rest =>
        have digit := allDigits first List.mem_cons_self
        obtain ⟨noSpace, noMinus, noPlus⟩ := not_isSpace_of_isDigit digit
        have unsigned : readSign (first :: (rest ++ after)) =
            (false, first :: (rest ++ after)) := by
          unfold readSign
          split
          · rename_i same
            exact absurd (List.cons.inj same).1 noMinus
          · rename_i same
            exact absurd (List.cons.inj same).1 noPlus
          · rfl
        rw [List.cons_append] at taken dropped ⊢
        simp only [readInt, dropWhile_isSpace_append spaces noSpace, unsigned, taken, dropped,
          present, signed, Bool.false_eq_true, if_false]
    · rw [same, List.singleton_append]
      simp only [readInt, dropWhile_isSpace_append spaces plus, readSign, taken, dropped, present,
        signed, Bool.false_eq_true, if_false]

/-- A sign is read off the front, or there is none. -/
theorem readSign_cases {text body : List Char} {negative : Bool}
    (read : readSign text = (negative, body)) :
    ∃ sign, text = sign ++ body ∧
      (negative = true ∧ sign = ['-'] ∨ negative = false ∧ (sign = [] ∨ sign = ['+'])) := by
  -- One case for a minus, one for a plus, and one for no sign, as in the code.
  unfold readSign at read
  split at read
  · cases read
    exact ⟨['-'], rfl, .inl ⟨rfl, rfl⟩⟩
  · cases read
    exact ⟨['+'], rfl, .inr ⟨rfl, .inr rfl⟩⟩
  · cases read
    exact ⟨[], rfl, .inr ⟨rfl, .inl rfl⟩⟩

/-- What is read as a number is white space, a sign and digits. -/
theorem readInt_cases {text rest : List Char} {number : Int}
    (read : readInt text = some (number, rest)) :
    ∃ before sign digits, text = before ++ (sign ++ (digits ++ rest)) ∧
      (∀ char ∈ before, isSpace char = true) ∧ digits ≠ [] ∧
      (∀ char ∈ digits, char.isDigit = true) ∧
      (sign = ['-'] ∧ number = -(value digits : Int) ∨
        (sign = [] ∨ sign = ['+']) ∧ number = value digits) := by
  -- The parts are what the reader skips, takes and leaves.
  unfold readInt at read
  generalize signs : readSign (text.dropWhile isSpace) = parts at read
  obtain ⟨negative, body⟩ := parts
  simp only at read
  split at read
  · cases read
  · rename_i present
    simp only [Option.some.injEq, Prod.mk.injEq] at read
    obtain ⟨sameNumber, sameRest⟩ := read
    obtain ⟨sign, signed, negatives⟩ := readSign_cases signs
    refine ⟨text.takeWhile isSpace, sign, body.takeWhile Char.isDigit, ?_,
      fun char member => List.mem_takeWhile_imp member, by simpa using present,
      fun char member => List.mem_takeWhile_imp member, ?_⟩
    · rw [← sameRest, List.takeWhile_append_dropWhile, ← signed, List.takeWhile_append_dropWhile]
    · rcases negatives with ⟨minus, same⟩ | ⟨plus, same⟩
      · rw [minus] at sameNumber
        exact .inl ⟨same, sameNumber.symm⟩
      · rw [plus] at sameNumber
        exact .inr ⟨same, sameNumber.symm⟩

/-- A text is read whole exactly when it spells a number, and then as that number. -/
theorem readWhole_eq_some_iff {text : List Char} {number : Int} :
    readWhole text = some number ↔ Spells text number := by
  constructor
  · -- What has been read in front is a numeral, and only white space is left behind it.
    intro read
    unfold readWhole at read
    cases front : readInt text with
    | none => simp [front] at read
    | some pair =>
      obtain ⟨found, rest⟩ := pair
      simp only [front] at read
      split at read
      · rename_i blank
        cases read
        obtain ⟨before, sign, digits, split, spaces, nonempty, allDigits, signs⟩ :=
          readInt_cases front
        exact ⟨before, sign, digits, rest, split, spaces, List.all_eq_true.mp blank, nonempty,
          allDigits, signs⟩
      · cases read
  · intro spelled
    obtain ⟨before, sign, digits, after, split, spaces, blanks, nonempty, allDigits, signs⟩ :=
      spelled
    obtain ⟨minus, plus⟩ := readInt_eq spaces nonempty allDigits
      (dropWhile_isDigit_of_isSpace blanks)
    have blank : after.all isSpace = true := List.all_eq_true.mpr blanks
    -- The sign decides which of the two readings of the numeral applies.
    rcases signs with ⟨same, sameNumber⟩ | ⟨same, sameNumber⟩
    · rw [split, readWhole, minus same, sameNumber]
      simp only [blank, if_true]
    · rw [split, readWhole, plus same, sameNumber]
      simp only [blank, if_true]

/-- A numeral spells one number only. -/
theorem Spells.unique {text : List Char} {number other : Int} (spells : Spells text number)
    (again : Spells text other) : number = other :=
  Option.some.inj ((readWhole_eq_some_iff.mpr spells).symm.trans (readWhole_eq_some_iff.mpr again))

/-- The number that a numeral spells is read off its front. -/
theorem Spells.readInt_eq {text : List Char} {number : Int} (spells : Spells text number) :
    ∃ rest, readInt text = some (number, rest) := by
  have whole := readWhole_eq_some_iff.mpr spells
  unfold readWhole at whole
  cases front : readInt text with
  | none => simp [front] at whole
  | some pair =>
    obtain ⟨found, rest⟩ := pair
    simp only [front, Option.ite_none_right_eq_some, Option.some.injEq] at whole
    exact ⟨rest, by rw [whole.2]⟩

/-- A numeral has no `x` in it. -/
theorem Spells.not_mem {text : List Char} {number : Int} (spells : Spells text number) :
    'x' ∉ text := by
  obtain ⟨before, sign, digits, after, split, spaces, blanks, -, allDigits, signs⟩ := spells
  -- An `x` is neither white space nor a sign nor a digit.
  rw [split]
  simp only [List.mem_append, not_or]
  refine ⟨fun member => ?_, fun member => ?_, fun member => ?_, fun member => ?_⟩
  · exact absurd (spaces _ member) (by decide)
  · rcases signs with ⟨same, -⟩ | ⟨same | same, -⟩ <;> simp [same] at member
  · exact absurd (allDigits _ member) (by decide)
  · exact absurd (blanks _ member) (by decide)

/-- Digits spell the number they stand for. -/
theorem spells_digits {digits : List Char} (nonempty : digits ≠ [])
    (allDigits : ∀ char ∈ digits, char.isDigit = true) : Spells digits (value digits) :=
  ⟨[], [], digits, [], by simp, by simp, by simp, nonempty, allDigits, .inr ⟨.inl rfl, rfl⟩⟩

/-- The decimal text of a number spells it. -/
theorem spells_repr (number : Nat) : Spells number.repr.toList number := by
  -- It has no white space and no sign, and its digits are decimal ones.
  refine ⟨[], [], Nat.toDigits 10 number, [], ?_, by simp, by simp, Nat.toDigits_ne_nil, ?_, ?_⟩
  · simp
  · exact fun char member => Nat.isDigit_of_mem_toDigits (by decide) (by decide) member
  · exact .inr ⟨.inl rfl, by simp [value]⟩

end Numeral
