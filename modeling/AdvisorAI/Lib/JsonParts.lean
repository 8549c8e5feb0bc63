import AdvisorAI.Lib.JsonReader

/-!
# What is inside a value

The names of the members of all objects in a value, and the numbers and the constants in it.
-/

namespace AdvisorAI.Lib.Json

mutual

/-- The names of members, of the objects inside too. -/
def names : Tree → List String
  | .array items => namesOf items
  | .object members => namesAt members
  | _ => []

def namesOf : List Tree → List String
  | [] => []
  | item :: items => names item ++ namesOf items

def namesAt : List (String × Tree) → List String
  | [] => []
  | (name, value) :: members => name :: (names value ++ namesAt members)

end

mutual

def numbers : Tree → List NumberToken
  | .number token => [token]
  | .array items => numbersOf items
  | .object members => numbersAt members
  | _ => []

def numbersOf : List Tree → List NumberToken
  | [] => []
  | item :: items => numbers item ++ numbersOf items

def numbersAt : List (String × Tree) → List NumberToken
  | [] => []
  | (_, value) :: members => numbers value ++ numbersAt members

end

mutual

/-- The constants in a value that are no JSON. -/
def constants : Tree → List Constant
  | .constant c => [c]
  | .array items => constantsOf items
  | .object members => constantsAt members
  | _ => []

def constantsOf : List Tree → List Constant
  | [] => []
  | item :: items => constants item ++ constantsOf items

def constantsAt : List (String × Tree) → List Constant
  | [] => []
  | (_, value) :: members => constants value ++ constantsAt members

end

variable (l : List String)

theorem namesOf_texts : namesOf (l.map Tree.text) = [] := by
  induction l with
  | nil => rfl
  | cons s l ih =>
    show names (.text s) ++ namesOf (l.map Tree.text) = []
    rw [ih]
    rfl

theorem numbersOf_texts : numbersOf (l.map Tree.text) = [] := by
  induction l with
  | nil => rfl
  | cons s l ih =>
    show numbers (.text s) ++ numbersOf (l.map Tree.text) = []
    rw [ih]
    rfl

theorem constantsOf_texts : constantsOf (l.map Tree.text) = [] := by
  induction l with
  | nil => rfl
  | cons s l ih =>
    show constants (.text s) ++ constantsOf (l.map Tree.text) = []
    rw [ih]
    rfl

end AdvisorAI.Lib.Json
