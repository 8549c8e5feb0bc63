import AdvisorAI.Gateway.Ports

/-!
# Classification and redaction

Before a request is routed, the content of its messages is redacted and its payload is
classified. The payload is walked through mappings and sequences; keys and texts that look
like credentials, execution material or confidential research raise the declared class and
never lower it. The regular expressions of the module are parameters, `TextPatterns`.
-/

namespace AdvisorAI

open Lib
open List hiding after

/-! ## Data classes -/

namespace GatewayDataClass

/-- `_CLASS_RANK`. -/
def rank : GatewayDataClass → Int
  | .unclassified => -1
  | .public => 0
  | .internalSanitized => 1
  | .confidential => 2
  | .secretExecution => 3

variable (a b : GatewayDataClass)

/-- `_max_data_class(a, b)`: the first of the two where both rank the same. -/
def maxClass : GatewayDataClass := if a.rank < b.rank then b else a

theorem rank_le_maxClass_left : a.rank ≤ (maxClass a b).rank := by
  unfold maxClass
  split
  next h => omega
  next => exact le_refl _

end GatewayDataClass

/-- The compiled regular expressions: what `search` finds, and what `sub` makes of a text. -/
structure TextPatterns where
  secretKey : String → Bool
  executionKey : String → Bool
  confidentialKey : String → Bool
  sanitizedKey : String → Bool
  secretText : String → Bool
  taskBlock : String → Bool
  taskPrivate : String → Bool
  redactPrivateKey : String → String
  redactBearer : String → String
  redactAssignment : String → String

variable (patterns : TextPatterns)

/-! ## Secret text -/

/-- `_normalise_sensitive_values(values)`, for values in the order their set has. -/
def normaliseSensitiveValues (values : List String) : List String :=
  (values.dedup.filter (· ≠ "")).mergeSort fun a b => decide (b.length ≤ a.length)

/-- Whether text still contains an unredacted credential-like value. -/
def containsSecretMaterial (value : String) (sensitiveValues : List String) : Bool :=
  sensitiveValues.any (fun secret => secret ≠ "" && containsText secret value)
    || patterns.secretText value

/-- `s.replace(old, new)` on characters, `skip` of which belong to an occurrence. -/
def replaceFrom (old new : List Char) (skip : Nat) : List Char → List Char
  | [] => []
  | c :: rest =>
    match skip with
    | n + 1 => replaceFrom old new n rest
    | 0 =>
      if old <+: c :: rest then new ++ replaceFrom old new (old.length - 1) rest
      else c :: replaceFrom old new 0 rest

/-- `text.replace(old, new)`. -/
def replaceText (text old new : String) : String :=
  String.ofList (replaceFrom old.toList new.toList 0 text.toList)

/-- Redact supplied credentials and common credential encodings in text. -/
def redactText (value : String) (sensitiveValues : List String) : String :=
  let redacted := sensitiveValues.foldl (fun text secret => replaceText text secret "[REDACTED]")
    value
  patterns.redactAssignment (patterns.redactBearer (patterns.redactPrivateKey redacted))

def redactMessage (sensitiveValues : List String) (m : GatewayMessage) : GatewayMessage :=
  { m with content := redactText patterns m.content sensitiveValues }

/-- A credential-free request copy and whether any text changed. The messages of the update
are objects already, so the copy takes them as they stand. -/
def redactRequest (request : GatewayRequest) (sensitiveValues : List String)
    (policyVersion : String) : Except PyError (GatewayRequest × Bool) :=
  let values := normaliseSensitiveValues sensitiveValues
  let messages := request.messages.map (redactMessage patterns values)
  let changed := request.messages.any fun m =>
    (redactMessage patterns values m).content ≠ m.content
  let copied := { request with messages := messages, redactionPolicyVersion := policyVersion }
  copied.requireTypedRequest.map fun _ => (copied, changed)

/-! ## Payloads -/

/-- The class that a key makes of what stands under it. -/
def keyClass (token : String) : Option GatewayDataClass :=
  if patterns.sanitizedKey token && (patterns.executionKey token || patterns.confidentialKey token)
    then some .internalSanitized
  else if patterns.executionKey token || patterns.secretKey token then some .secretExecution
  else if patterns.confidentialKey token then some .confidential
  else none

variable (inferred : GatewayDataClass)

/-- `inferred = _max_data_class(inferred, ...)`, where there is a class to infer. -/
def raiseTo : Option GatewayDataClass → GatewayDataClass
  | none => inferred
  | some c => inferred.maxClass c

mutual

/-- `visit(value)`; sets and other objects are not walked. -/
def visitValue (inferred : GatewayDataClass) : PyValue → GatewayDataClass
  | .map entries => visitEntries inferred entries
  | .seq items => visitItems inferred items
  | .str text =>
    if containsSecretMaterial patterns text [] then inferred.maxClass .secretExecution
    else inferred
  | _ => inferred

def visitItems (inferred : GatewayDataClass) : List PyValue → GatewayDataClass
  | [] => inferred
  | item :: rest => visitItems (visitValue inferred item) rest

def visitEntries (inferred : GatewayDataClass) : Metadata → GatewayDataClass
  | [] => inferred
  | (key, child) :: rest =>
    visitEntries (visitValue (raiseTo inferred (keyClass patterns key)) child) rest

end

/-- Infer a conservative class from structured keys and credential text. -/
def classifyPayload (payload : PyValue) (declared : GatewayDataClass) : GatewayDataClass :=
  visitValue patterns declared payload

variable {patterns}

theorem rank_le_raiseTo (c : Option GatewayDataClass) :
    inferred.rank ≤ (raiseTo inferred c).rank := by
  cases c with
  | none => exact le_refl _
  | some c => exact inferred.rank_le_maxClass_left c

mutual

theorem rank_le_visitValue (inferred : GatewayDataClass) :
    ∀ value, inferred.rank ≤ (visitValue patterns inferred value).rank
  | .map entries => rank_le_visitEntries inferred entries
  | .seq items => rank_le_visitItems inferred items
  | .str text => by
    unfold visitValue
    split
    · exact inferred.rank_le_maxClass_left .secretExecution
    · exact le_refl _
  | .none | .bool _ | .number _ | .set _ | .object _ _ => le_refl _

theorem rank_le_visitItems (inferred : GatewayDataClass) :
    ∀ items, inferred.rank ≤ (visitItems patterns inferred items).rank
  | [] => le_refl _
  | item :: rest =>
    (rank_le_visitValue inferred item).trans (rank_le_visitItems _ rest)

theorem rank_le_visitEntries (inferred : GatewayDataClass) :
    ∀ entries, inferred.rank ≤ (visitEntries patterns inferred entries).rank
  | [] => le_refl _
  | (key, child) :: rest =>
    ((rank_le_raiseTo inferred (keyClass patterns key)).trans (rank_le_visitValue _ child)).trans
      (rank_le_visitEntries _ rest)

end

/-- **A caller may declare a stronger class, but never a weaker one.** -/
theorem declared_le_classifyPayload (payload : PyValue) (declared : GatewayDataClass) :
    declared.rank ≤ (classifyPayload patterns payload declared).rank :=
  rank_le_visitValue declared payload

/-! ## What a class rests on -/

namespace GatewayPayload

section Marks

variable (patterns)

mutual

/-- The classes of the keys and texts that a walk comes by. -/
def marks : PyValue → List GatewayDataClass
  | .map entries => marksAt entries
  | .seq items => marksOf items
  | .str text => if containsSecretMaterial patterns text [] then [.secretExecution] else []
  | _ => []

def marksOf : List PyValue → List GatewayDataClass
  | [] => []
  | item :: rest => marks item ++ marksOf rest

def marksAt : Metadata → List GatewayDataClass
  | [] => []
  | (key, child) :: rest => (keyClass patterns key).toList ++ (marks child ++ marksAt rest)

end

mutual

/-- A value and the values in it, in containers of every shape. -/
def nested : PyValue → List PyValue
  | .map entries => .map entries :: nestedAt entries
  | .seq items => .seq items :: nestedOf items
  | .set items => .set items :: nestedOf items
  | value => [value]

def nestedOf : List PyValue → List PyValue
  | [] => []
  | item :: rest => nested item ++ nestedOf rest

def nestedAt : Metadata → List PyValue
  | [] => []
  | (_, child) :: rest => nested child ++ nestedAt rest

end

mutual

def inSets : PyValue → List PyValue
  | .map entries => inSetsAt entries
  | .seq items => inSetsOf items
  | .set items => nestedOf items
  | _ => []

def inSetsOf : List PyValue → List PyValue
  | [] => []
  | item :: rest => inSets item ++ inSetsOf rest

def inSetsAt : Metadata → List PyValue
  | [] => []
  | (_, child) :: rest => inSets child ++ inSetsAt rest

end

/-- One nested value is removed, at any depth. -/
inductive Removes : PyValue → PyValue → Prop
  | item (before after : List PyValue) (v : PyValue) :
      Removes (.seq (before ++ v :: after)) (.seq (before ++ after))
  | element (before after : List PyValue) (v : PyValue) :
      Removes (.set (before ++ v :: after)) (.set (before ++ after))
  | entry (before after : Metadata) (key : String) (v : PyValue) :
      Removes (.map (before ++ (key, v) :: after)) (.map (before ++ after))
  | inItem (before after : List PyValue) {v w : PyValue} (h : Removes v w) :
      Removes (.seq (before ++ v :: after)) (.seq (before ++ w :: after))
  | inElement (before after : List PyValue) {v w : PyValue} (h : Removes v w) :
      Removes (.set (before ++ v :: after)) (.set (before ++ w :: after))
  | inEntry (before after : Metadata) (key : String) {v w : PyValue} (h : Removes v w) :
      Removes (.map (before ++ (key, v) :: after)) (.map (before ++ (key, w) :: after))

variable {patterns}

theorem raiseTo_toList (inferred : GatewayDataClass) (c : Option GatewayDataClass) :
    raiseTo inferred c = c.toList.foldl GatewayDataClass.maxClass inferred := by
  cases c <;> rfl

mutual

theorem visitValue_eq (inferred : GatewayDataClass) : ∀ value,
    visitValue patterns inferred value
      = (marks patterns value).foldl GatewayDataClass.maxClass inferred
  | .map entries => visitEntries_eq inferred entries
  | .seq items => visitItems_eq inferred items
  | .str text => by
    unfold visitValue marks
    split <;> rfl
  | .none | .bool _ | .number _ | .set _ | .object _ _ => rfl

theorem visitItems_eq (inferred : GatewayDataClass) : ∀ items,
    visitItems patterns inferred items
      = (marksOf patterns items).foldl GatewayDataClass.maxClass inferred
  | [] => rfl
  | item :: rest => by
    rw [marksOf, foldl_append, ← visitValue_eq inferred item]
    exact visitItems_eq _ rest

theorem visitEntries_eq (inferred : GatewayDataClass) : ∀ entries,
    visitEntries patterns inferred entries
      = (marksAt patterns entries).foldl GatewayDataClass.maxClass inferred
  | [] => rfl
  | (key, child) :: rest => by
    rw [marksAt, foldl_append, foldl_append, ← raiseTo_toList, ← visitValue_eq _ child]
    exact visitEntries_eq _ rest

end

variable {payload v w : PyValue} {declared m : GatewayDataClass}

theorem rank_classifyPayload_le {r : Int} :
    (classifyPayload patterns payload declared).rank ≤ r ↔
      declared.rank ≤ r ∧ ∀ m ∈ marks patterns payload, m.rank ≤ r := by
  unfold classifyPayload
  rw [visitValue_eq]
  induction marks patterns payload generalizing declared with
  | nil => simp
  | cons m rest ih =>
    have hmax : (declared.maxClass m).rank ≤ r ↔ declared.rank ≤ r ∧ m.rank ≤ r := by
      unfold GatewayDataClass.maxClass
      split <;> omega
    rw [foldl_cons, ih, hmax, forall_mem_cons, and_assoc]

theorem marksOf_append (items rest : List PyValue) :
    marksOf patterns (items ++ rest) = marksOf patterns items ++ marksOf patterns rest := by
  induction items with
  | nil => rfl
  | cons item items ih => rw [cons_append, marksOf, marksOf, ih, append_assoc]

theorem marksAt_append (entries rest : Metadata) :
    marksAt patterns (entries ++ rest) = marksAt patterns entries ++ marksAt patterns rest := by
  induction entries with
  | nil => rfl
  | cons entry entries ih =>
    obtain ⟨key, child⟩ := entry
    rw [cons_append, marksAt, marksAt, ih, append_assoc, append_assoc]

/-- **What is left after a removal** was come by before. -/
theorem marks_subset_of_removes (h : Removes v w) : marks patterns w ⊆ marks patterns v := by
  induction h with
  | item before after v =>
    rw [marks, marks, marksOf_append, marksOf_append, marksOf]
    grind
  | entry before after key v =>
    rw [marks, marks, marksAt_append, marksAt_append, marksAt]
    grind
  | inItem before after _ ih =>
    rw [marks, marks, marksOf_append, marksOf_append, marksOf, marksOf]
    grind
  | inEntry before after key _ ih =>
    rw [marks, marks, marksAt_append, marksAt_append, marksAt, marksAt]
    grind
  | element => exact List.Subset.refl _
  | inElement => exact List.Subset.refl _

mutual

theorem mem_inSets_or_marks : ∀ v, ∀ n ∈ nested v,
    n ∈ inSets v ∨ marks patterns n ⊆ marks patterns v
  | .map entries => fun n hn => (mem_cons.mp hn).elim
      (fun h => Or.inr (h ▸ List.Subset.refl _)) (mem_inSetsAt_or_marks entries n)
  | .seq items => fun n hn => (mem_cons.mp hn).elim
      (fun h => Or.inr (h ▸ List.Subset.refl _)) (mem_inSetsOf_or_marks items n)
  | .set _ => fun _ hn => (mem_cons.mp hn).elim
      (fun h => Or.inr (h ▸ List.Subset.refl _)) Or.inl
  | .none | .bool _ | .number _ | .str _ | .object _ _ => fun _ hn =>
      Or.inr (mem_singleton.mp hn ▸ List.Subset.refl _)

theorem mem_inSetsOf_or_marks : ∀ items, ∀ n ∈ nestedOf items,
    n ∈ inSetsOf items ∨ marks patterns n ⊆ marksOf patterns items
  | [] => fun _ hn => absurd hn not_mem_nil
  | item :: rest => fun n hn => by
    rw [inSetsOf, marksOf]
    rcases mem_append.mp hn with hn | hn
    · exact (mem_inSets_or_marks item n hn).imp (mem_append_left _)
        fun h => List.Subset.trans h (subset_append_left _ _)
    · exact (mem_inSetsOf_or_marks rest n hn).imp (mem_append_right _)
        fun h => List.Subset.trans h (subset_append_right _ _)

theorem mem_inSetsAt_or_marks : ∀ entries, ∀ n ∈ nestedAt entries,
    n ∈ inSetsAt entries ∨ marks patterns n ⊆ marksAt patterns entries
  | [] => fun _ hn => absurd hn not_mem_nil
  | (key, child) :: rest => fun n hn => by
    rw [inSetsAt, marksAt]
    rcases mem_append.mp hn with hn | hn
    · exact (mem_inSets_or_marks child n hn).imp (mem_append_left _) fun h =>
        List.Subset.trans h (List.Subset.trans (subset_append_left _ _)
          (subset_append_right _ _))
    · exact (mem_inSetsAt_or_marks rest n hn).imp (mem_append_right _) fun h =>
        List.Subset.trans h (List.Subset.trans (subset_append_right _ _)
          (subset_append_right _ _))

end

mutual

theorem nested_of_inSets : ∀ v, inSets v ⊆ nested v
  | .map entries => List.Subset.trans (nestedAt_of_inSets entries) (subset_cons_self _ _)
  | .seq items => List.Subset.trans (nestedOf_of_inSets items) (subset_cons_self _ _)
  | .set _ => subset_cons_self _ _
  | .none | .bool _ | .number _ | .str _ | .object _ _ => nil_subset _

theorem nestedOf_of_inSets : ∀ items, inSetsOf items ⊆ nestedOf items
  | [] => nil_subset _
  | item :: rest => append_subset.mpr
      ⟨List.Subset.trans (nested_of_inSets item) (subset_append_left _ _),
        List.Subset.trans (nestedOf_of_inSets rest) (subset_append_right _ _)⟩

theorem nestedAt_of_inSets : ∀ entries, inSetsAt entries ⊆ nestedAt entries
  | [] => nil_subset _
  | (_, child) :: rest => append_subset.mpr
      ⟨List.Subset.trans (nested_of_inSets child) (subset_append_left _ _),
        List.Subset.trans (nestedAt_of_inSets rest) (subset_append_right _ _)⟩

end

theorem le_rank_of_mem_marks (h : m ∈ marks patterns payload) :
    m.rank ≤ (classifyPayload patterns payload declared).rank :=
  (rank_classifyPayload_le.mp (le_refl _)).2 m h

/-- **When a class covers what is nested**: what stands in sets is not walked, so nothing there may
be more restrictive than what was declared and all that is walked. -/
theorem classifyPayload_covers_iff (patterns : TextPatterns) (payload : PyValue)
    (declared : GatewayDataClass) :
    (declared.rank ≤ (classifyPayload patterns payload declared).rank ∧
      (∀ n ∈ nested payload, (classifyPayload patterns n .unclassified).rank
        ≤ (classifyPayload patterns payload declared).rank) ∧
      ∀ rest, Removes payload rest → (classifyPayload patterns rest declared).rank
        ≤ (classifyPayload patterns payload declared).rank) ↔
      ∀ n ∈ inSets payload, ∀ m ∈ marks patterns n,
        m.rank ≤ declared.rank ∨ ∃ walked ∈ marks patterns payload, m.rank ≤ walked.rank := by
  have hdeclared : declared.rank ≤ (classifyPayload patterns payload declared).rank :=
    declared_le_classifyPayload payload declared
  constructor
  · rintro ⟨-, hnested, -⟩ n hn m hm
    have hle := (le_rank_of_mem_marks hm).trans (hnested n (nested_of_inSets payload hn))
    by_contra hnone
    rw [not_or, not_le] at hnone
    obtain ⟨hmore, hwalked⟩ := hnone
    have hbelow : (classifyPayload patterns payload declared).rank ≤ m.rank - 1 := by
      refine rank_classifyPayload_le.mpr ⟨by omega, fun walked hmem => ?_⟩
      by_contra hnot
      exact hwalked ⟨walked, hmem, by omega⟩
    omega
  · intro hsets
    refine ⟨hdeclared, ?_, ?_⟩
    · intro n hn
      refine rank_classifyPayload_le.mpr ⟨?_, ?_⟩
      · have hleast : (-1 : Int) ≤ declared.rank := by cases declared <;> decide
        exact hleast.trans hdeclared
      · intro m hm
        rcases mem_inSets_or_marks payload n hn with hset | hsub
        · rcases hsets n hset m hm with hle | ⟨walked, hwalked, hle⟩
          · exact hle.trans hdeclared
          · exact hle.trans (le_rank_of_mem_marks hwalked)
        · exact le_rank_of_mem_marks (hsub hm)
    · intro rest hrest
      refine rank_classifyPayload_le.mpr ⟨hdeclared, fun m hm => ?_⟩
      exact le_rank_of_mem_marks (marks_subset_of_removes hrest hm)

end Marks

def bearerPatterns : TextPatterns where
  secretKey := fun _ => false
  executionKey := fun _ => false
  confidentialKey := fun _ => false
  sanitizedKey := fun _ => false
  secretText := fun text => text = "Bearer abcdefghijkl"
  taskBlock := fun _ => false
  taskPrivate := fun _ => false
  redactPrivateKey := id
  redactBearer := id
  redactAssignment := id

/-- A token in a set is not seen. -/
theorem token_in_set_unclassified :
    ¬∀ payload declared, ∀ n ∈ nested payload,
      (classifyPayload bearerPatterns n .unclassified).rank
        ≤ (classifyPayload bearerPatterns payload declared).rank := by
  intro h
  have hle := h (.map [("headers", .set [.str "Bearer abcdefghijkl"])]) .public
    (.str "Bearer abcdefghijkl") (by decide)
  revert hle
  decide

end GatewayPayload

end AdvisorAI
