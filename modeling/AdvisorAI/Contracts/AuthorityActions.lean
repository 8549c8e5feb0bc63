import AdvisorAI.Lib.Text

/-!
# Names of actions

An action has as many names as there are providers. Before one is looked up in the
denylist it is brought to a normal form, its words in lower case with underscores
between them.
-/

namespace AdvisorAI

open Lib

/-! ## The normal form -/

variable (c : Char)

/-- `[a-z0-9]`. -/
def isLowerOrDigit : Bool := ('a' ≤ c ∧ c ≤ 'z') ∨ ('0' ≤ c ∧ c ≤ '9')

/-- `[A-Z]`. -/
def isUpperLetter : Bool := 'A' ≤ c ∧ c ≤ 'Z'

/-- `[a-zA-Z0-9]`. -/
def isNameChar : Bool := isLowerOrDigit c || isUpperLetter c

/-- `re.sub(r"(?<=[a-z0-9])(?=[A-Z])", "_", value)`. -/
def breakWords : List Char → List Char
  | [] => []
  | [c] => [c]
  | c :: d :: rest =>
    if isLowerOrDigit c && isUpperLetter d then c :: '_' :: breakWords (d :: rest)
    else c :: breakWords (d :: rest)

/-- `re.sub(r"[^...]+", "_", value)` for the characters `keep`; `inRun` says that the
character before is in a run that has its underscore. -/
def squeeze (keep : Char → Bool) (inRun : Bool) : List Char → List Char
  | [] => []
  | c :: rest =>
    if keep c then c :: squeeze keep false rest
    else if inRun then squeeze keep true rest
    else '_' :: squeeze keep true rest

/-- `value.strip("_")`. -/
def stripUnderscores (value : List Char) : List Char :=
  ((value.dropWhile fun c => decide (c = '_')).reverse.dropWhile fun c => decide (c = '_')).reverse

/-- Normalize an action name before applying the trading-boundary denylist. -/
def normalizeAuthorityAction (value : String) : String :=
  let broken := breakWords (strip value).toList
  let normalized := (stripUnderscores (squeeze isNameChar false broken)).map lowerChar
  String.ofList (squeeze (fun c => decide (c ≠ '_')) false normalized)

/-! ## The denylist -/

def forbiddenCapabilityActions : List String :=
  ["submit_order", "change_risk_limit", "live_deploy"]

/-- `normalized.split("_")`. -/
def actionTokens (normalized : String) : List String :=
  (normalized.toList.splitOn '_').map String.ofList

/-- A token without the `s` it ends in. -/
def singular (token : String) : String :=
  if token.toList.getLast? = some 's' then String.ofList token.toList.dropLast else token

/-- `tokens.intersection(words)`, as a truth value. -/
def meetsWords (tokens words : List String) : Bool := tokens.any (· ∈ words)

def readWords : List String := ["read", "list", "query", "history", "status"]

def orderWriteVerbs : List String :=
  ["amend", "cancel", "create", "delete", "execute", "place", "send", "submit", "write"]

def riskWriteVerbs : List String :=
  ["change", "disable", "increase", "modify", "override", "relax", "set", "write"]

def riskNouns : List String := ["risk", "limit", "exposure", "leverage", "position", "margin"]

/-- Reject order/risk/deployment write authority, including common aliases. -/
def isForbiddenAuthorityAction (value : String) : Bool :=
  let normalized := normalizeAuthorityAction value
  let tokens := actionTokens normalized
  let singularTokens := tokens.map singular
  if normalized = "" then false
  else if normalized ∈ forbiddenCapabilityActions then true
  else if meetsWords tokens ["submitorder", "change_risk_limit", "livedeploy"] then true
  else if ("live" ∈ tokens ∧ "deploy" ∈ tokens) ∨ ("production" ∈ tokens ∧ "deploy" ∈ tokens) then
    true
  else if ("broker" ∈ singularTokens ∨ "exchange" ∈ singularTokens ∨ "venue" ∈ singularTokens) ∧
      meetsWords tokens ["credential", "secret", "key", "token"] = true then true
  else if "order" ∈ singularTokens ∧ meetsWords tokens readWords = false then true
  else if meetsWords singularTokens ["order", "trade"] && meetsWords tokens orderWriteVerbs then
    true
  else if meetsWords tokens ["execute", "place", "submit", "send", "trade"] &&
      !meetsWords tokens readWords then true
  else meetsWords tokens riskNouns && meetsWords tokens riskWriteVerbs

/-! ## Spellings -/

/-- The normal forms of a name of these words, where neighbours may be run together. -/
def joinings : List String → List String
  | [] => []
  | [word] => [word]
  | word :: rest => (joinings rest).flatMap fun tail => [word ++ "_" ++ tail, word ++ tail]

/-- The action is spelled with the words of a forbidden one, each of them whole. -/
def SpellsForbidden (action : String) : Prop :=
  ∃ forbidden ∈ forbiddenCapabilityActions,
    normalizeAuthorityAction action ∈ joinings (actionTokens forbidden)

instance (action : String) : Decidable (SpellsForbidden action) :=
  inferInstanceAs (Decidable (∃ _ ∈ _, _))

/-- The spellings of `change_risk_limit` that run words together. -/
def runTogetherRiskLimit : List String :=
  ["changerisk_limit", "change_risklimit", "changerisklimit"]

example : SpellsForbidden "Submit.Order" ∧ SpellsForbidden "liveDeploy" ∧
    SpellsForbidden "CHANGERiskLimit" := by decide +kernel

variable {normalized : String}

/-- **What the denylist lets through.** A spelling of a forbidden action is rejected
unless it runs words of `change_risk_limit` together. -/
theorem spelling_rejected_iff
    (h : ∃ forbidden ∈ forbiddenCapabilityActions, normalized ∈ joinings (actionTokens forbidden)) :
    isForbiddenAuthorityAction normalized = true ↔ normalized ∉ runTogetherRiskLimit := by
  have hall : ∀ forbidden ∈ forbiddenCapabilityActions,
      ∀ normalized ∈ joinings (actionTokens forbidden),
        (isForbiddenAuthorityAction normalized = true ↔ normalized ∉ runTogetherRiskLimit) := by
    decide +kernel
  obtain ⟨forbidden, hforbidden, hmem⟩ := h
  exact hall forbidden hforbidden normalized hmem

theorem runTogether_spells (h : normalized ∈ runTogetherRiskLimit) :
    ∃ forbidden ∈ forbiddenCapabilityActions,
      normalized ∈ joinings (actionTokens forbidden) := by
  have hall : ∀ normalized ∈ runTogetherRiskLimit, ∃ forbidden ∈ forbiddenCapabilityActions,
      normalized ∈ joinings (actionTokens forbidden) := by
    decide +kernel
  exact hall normalized h

end AdvisorAI
