import Mathlib.Data.Rat.Defs

/-!
# Values of unknown shape

Options, schemas, metadata and payloads arrive as whatever the caller built: scalars,
sequences, sets and mappings nested in each other, and objects of classes nobody here
knows. `PyValue` is that tree. Equality on it is decidable, `texts` are the strings that
occur in it, keys included, and `anyKey` asks about the keys a walk through mappings and
sequences comes by.
-/

namespace AdvisorAI.Lib

/-- A value of unknown shape. A mapping keeps its entries in order, with `str(key)` for
each key. -/
inductive PyValue where
  | none
  | bool (b : Bool)
  | number (q : ℚ)
  | str (s : String)
  | seq (items : List PyValue)
  | set (items : List PyValue)
  | map (entries : List (String × PyValue))
  | object (typeName : String) (attributes : List (String × PyValue))

namespace PyValue

/-! ## Equality -/

mutual

/-- `a == b`, structurally. -/
def same : PyValue → PyValue → Bool
  | .none, .none => true
  | .bool a, .bool b => a = b
  | .number a, .number b => a = b
  | .str a, .str b => a = b
  | .seq as, .seq bs => sameItems as bs
  | .set as, .set bs => sameItems as bs
  | .map as, .map bs => sameEntries as bs
  | .object t as, .object u bs => t = u && sameEntries as bs
  | _, _ => false

def sameItems : List PyValue → List PyValue → Bool
  | [], [] => true
  | a :: as, b :: bs => same a b && sameItems as bs
  | _, _ => false

def sameEntries : List (String × PyValue) → List (String × PyValue) → Bool
  | [], [] => true
  | (k, a) :: as, (l, b) :: bs => k = l && (same a b && sameEntries as bs)
  | _, _ => false

end

mutual

theorem same_iff : ∀ a b : PyValue, same a b = true ↔ a = b
  | .none, b => by cases b <;> simp [same]
  | .bool a, b => by cases b <;> simp [same]
  | .number a, b => by cases b <;> simp [same]
  | .str a, b => by cases b <;> simp [same]
  | .seq as, b => by cases b <;> simp [same, sameItems_iff]
  | .set as, b => by cases b <;> simp [same, sameItems_iff]
  | .map as, b => by cases b <;> simp [same, sameEntries_iff]
  | .object t as, b => by cases b <;> simp [same, sameEntries_iff]

theorem sameItems_iff : ∀ as bs : List PyValue, sameItems as bs = true ↔ as = bs
  | [], bs => by cases bs <;> simp [sameItems]
  | a :: as, bs => by
    cases bs with
    | nil => simp [sameItems]
    | cons b bs => simp [sameItems, same_iff a b, sameItems_iff as bs]

theorem sameEntries_iff :
    ∀ as bs : List (String × PyValue), sameEntries as bs = true ↔ as = bs
  | [], bs => by cases bs <;> simp [sameEntries]
  | (k, a) :: as, bs => by
    cases bs with
    | nil => simp [sameEntries]
    | cons entry bs =>
      obtain ⟨l, b⟩ := entry
      simp [sameEntries, same_iff a b, sameEntries_iff as bs, and_assoc]

end

instance : DecidableEq PyValue := fun a b => decidable_of_iff _ (same_iff a b)

/-! ## What occurs in a value -/

mutual

/-- The strings in a value, keys and attribute names included. -/
def texts : PyValue → List String
  | .str s => [s]
  | .seq items => textsOf items
  | .set items => textsOf items
  | .map entries => textsAt entries
  | .object _ attributes => textsAt attributes
  | _ => []

def textsOf : List PyValue → List String
  | [] => []
  | v :: rest => texts v ++ textsOf rest

def textsAt : List (String × PyValue) → List String
  | [] => []
  | (k, v) :: rest => k :: texts v ++ textsAt rest

end

mutual

/-- Some key of a mapping that a walk through mappings and sequences reaches satisfies `p`. -/
def anyKey (p : String → Bool) : PyValue → Bool
  | .map entries => anyKeyAt p entries
  | .seq items => anyKeyOf p items
  | _ => false

def anyKeyOf (p : String → Bool) : List PyValue → Bool
  | [] => false
  | v :: rest => anyKey p v || anyKeyOf p rest

def anyKeyAt (p : String → Bool) : List (String × PyValue) → Bool
  | [] => false
  | (k, v) :: rest => p k || (anyKey p v || anyKeyAt p rest)

end

end PyValue

end AdvisorAI.Lib
