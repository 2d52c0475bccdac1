/-
  ImageIntake.Vocabulary

  Closed vocabularies: each value of a type has a constant's name and a word,
  and reading a word that is not in the vocabulary is an error that quotes it.
-/

namespace ImageIntake

/-- One value with the name of its constant and its word. -/
structure Term (α : Type) where
  value : α
  label : String
  word : String

/-- All values of a type, in their order. -/
structure Vocabulary (α : Type) where
  title : String
  terms : List (Term α)

namespace Vocabulary

variable {α : Type}

/-- The term of a word. -/
def find? (v : Vocabulary α) (word : String) : Option (Term α) :=
  v.terms.find? (·.word == word)

/-- The value of a word. -/
def read? (v : Vocabulary α) (word : String) : Option α :=
  (v.find? word).map (·.value)

/-- The word of a value. -/
def word [BEq α] (v : Vocabulary α) (value : α) : String :=
  ((v.terms.find? (·.value == value)).map (·.word)).getD ""

/-- The name of the constant of a value. -/
def label [BEq α] (v : Vocabulary α) (value : α) : String :=
  ((v.terms.find? (·.value == value)).map (·.label)).getD ""

end Vocabulary

end ImageIntake
