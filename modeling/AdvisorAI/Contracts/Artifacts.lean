import AdvisorAI.Contracts.Core
import AdvisorAI.Lib.Json
import Mathlib.Data.List.Forall2

/-!
# The identity of artifacts

Every contract is an artifact: fields of its own, and an identifier and a
creation time that are generated when it is built. A field may hold an artifact
again (the instrument of an order, the limits of a policy). `FieldType` and
`Fields` describe the classes, `Value` and `Record` their values.

`canonicalHash` hashes the JSON of an artifact without its own identifier and
creation time. The exclusion is by the names of the outermost fields; the
artifacts inside are printed with both. `canonicalHash_eq_iff` says what equal
hashes mean: equal domain fields at every depth (`SameRecord`), and inside the
artifact the same identifiers, times and spellings (`AgreeRecord`).
-/

namespace AdvisorAI

open Lib Json List

/-! ## Classes and values -/

mutual

/-- What a field holds. An enumeration is a `text`: its wire value. -/
inductive FieldType where
  | text | integer | boolean | decimal | time | uuid
  | list (item : FieldType)
  | artifact (fields : Fields)

/-- The fields of a class, in their order. -/
inductive Fields where
  | nil
  | field (name : String) (type : FieldType) (rest : Fields)
  /-- A field that may be `None`. -/
  | optional (name : String) (type : FieldType) (rest : Fields)

end

/-- An artifact: its generated identity, and its fields. -/
structure ArtifactOf (ρ : Type) where
  artifactId : UUID
  createdAt : Timestamp
  fields : ρ

mutual

def Value : FieldType → Type
  | .text => String
  | .integer => Int
  | .boolean => Bool
  | .decimal => Decimal
  | .time => Timestamp
  | .uuid => UUID
  | .list item => List (Value item)
  | .artifact fields => ArtifactOf (Record fields)

def Record : Fields → Type
  | .nil => Unit
  | .field _ type rest => Value type × Record rest
  | .optional _ type rest => Option (Value type) × Record rest

end

abbrev Artifact (fields : Fields) := ArtifactOf (Record fields)

/-! ## Equality of domain fields -/

mutual

/-- Equal in all domain fields, as Python compares them: decimals as numbers,
artifacts without their identity. -/
def Same : (type : FieldType) → Value type → Value type → Prop
  | .text, a, b => (show String from a) = b
  | .integer, a, b => (show Int from a) = b
  | .boolean, a, b => (show Bool from a) = b
  | .decimal, a, b => (show Decimal from a).value = (show Decimal from b).value
  | .time, a, b => (show Timestamp from a) = b
  | .uuid, a, b => (show UUID from a) = b
  | .list item, a, b => List.Forall₂ (Same item) a b
  | .artifact fields, a, b => SameRecord fields (ArtifactOf.fields a) (ArtifactOf.fields b)

def SameRecord : (fields : Fields) → Record fields → Record fields → Prop
  | .nil, _, _ => True
  | .field _ type rest, a, b => Same type (Prod.fst a) (Prod.fst b)
      ∧ SameRecord rest (Prod.snd a) (Prod.snd b)
  | .optional _ type rest, a, b => Option.Rel (Same type) (Prod.fst a) (Prod.fst b)
      ∧ SameRecord rest (Prod.snd a) (Prod.snd b)

end

mutual

/-- The artifacts inside carry the same identifiers and creation times, and
decimals are spelled alike. -/
def Agree : (type : FieldType) → Value type → Value type → Prop
  | .text, _, _ => True
  | .integer, _, _ => True
  | .boolean, _, _ => True
  | .decimal, a, b => (show Decimal from a) = b
  | .time, _, _ => True
  | .uuid, _, _ => True
  | .list item, a, b => List.Forall₂ (Agree item) a b
  | .artifact fields, a, b => ArtifactOf.artifactId a = ArtifactOf.artifactId b
      ∧ ArtifactOf.createdAt a = ArtifactOf.createdAt b
      ∧ AgreeRecord fields (ArtifactOf.fields a) (ArtifactOf.fields b)

def AgreeRecord : (fields : Fields) → Record fields → Record fields → Prop
  | .nil, _, _ => True
  | .field _ type rest, a, b => Agree type (Prod.fst a) (Prod.fst b)
      ∧ AgreeRecord rest (Prod.snd a) (Prod.snd b)
  | .optional _ type rest, a, b => Option.Rel (Agree type) (Prod.fst a) (Prod.fst b)
      ∧ AgreeRecord rest (Prod.snd a) (Prod.snd b)

end

/-- The two artifacts are equal in all domain fields. -/
def SameDomain {fields : Fields} (a b : Artifact fields) : Prop :=
  SameRecord fields a.fields b.fields

/-- What is inside the two artifacts carries the same identity and spelling. -/
def NestedAgree {fields : Fields} (a b : Artifact fields) : Prop :=
  AgreeRecord fields a.fields b.fields

section Relations

variable {α : Type} {P Q : α → α → Prop}

theorem forall₂_and_iff (h : ∀ a b, P a b ∧ Q a b ↔ a = b) (l m : List α) :
    List.Forall₂ P l m ∧ List.Forall₂ Q l m ↔ l = m := by
  constructor
  · intro ⟨hp, hq⟩
    induction hp with
    | nil => rfl
    | cons hab _ ih =>
      cases hq with
      | cons hab' hrest => rw [(h _ _).mp ⟨hab, hab'⟩, ih hrest]
  · intro heq
    subst heq
    exact ⟨forall₂_same.mpr fun a _ => ((h a a).mpr rfl).1,
      forall₂_same.mpr fun a _ => ((h a a).mpr rfl).2⟩

theorem optionRel_and_iff (h : ∀ a b, P a b ∧ Q a b ↔ a = b) (a b : Option α) :
    Option.Rel P a b ∧ Option.Rel Q a b ↔ a = b := by
  constructor
  · intro ⟨hp, hq⟩
    cases hp with
    | none => rfl
    | some hab =>
      cases hq with
      | some hab' => rw [(h _ _).mp ⟨hab, hab'⟩]
  · intro heq
    subst heq
    cases a with
    | none => exact ⟨.none, .none⟩
    | some a => exact ⟨.some ((h a a).mpr rfl).1, .some ((h a a).mpr rfl).2⟩

end Relations

mutual

theorem same_and_agree : (type : FieldType) → (a b : Value type) →
    (Same type a b ∧ Agree type a b ↔ a = b)
  | .text, _, _ => and_iff_left trivial
  | .integer, _, _ => and_iff_left trivial
  | .boolean, _, _ => and_iff_left trivial
  | .decimal, a, b => by
    constructor
    · intro h
      exact h.2
    · intro h
      subst h
      exact ⟨rfl, rfl⟩
  | .time, _, _ => and_iff_left trivial
  | .uuid, _, _ => and_iff_left trivial
  | .list item, a, b => forall₂_and_iff (same_and_agree item) a b
  | .artifact fields, a, b => by
    have hfields := sameRecord_and_agree fields (ArtifactOf.fields a) (ArtifactOf.fields b)
    constructor
    · intro ⟨hsame, hid, htime, hagree⟩
      have heq := hfields.mp ⟨hsame, hagree⟩
      cases a
      cases b
      cases hid
      cases htime
      cases heq
      rfl
    · intro h
      subst h
      exact ⟨(hfields.mpr rfl).1, rfl, rfl, (hfields.mpr rfl).2⟩

theorem sameRecord_and_agree : (fields : Fields) → (a b : Record fields) →
    (SameRecord fields a b ∧ AgreeRecord fields a b ↔ a = b)
  | .nil, _, _ => by
    constructor
    · intro _
      rfl
    · intro _
      exact ⟨trivial, trivial⟩
  | .field _ type rest, (v, a), (w, b) => by
    have hvalue := same_and_agree type v w
    have hrest := sameRecord_and_agree rest a b
    constructor
    · intro ⟨⟨hv, ha⟩, hv', ha'⟩
      rw [hvalue.mp ⟨hv, hv'⟩, hrest.mp ⟨ha, ha'⟩]
    · intro h
      cases h
      exact ⟨⟨(hvalue.mpr rfl).1, (hrest.mpr rfl).1⟩, (hvalue.mpr rfl).2, (hrest.mpr rfl).2⟩
  | .optional _ type rest, (v, a), (w, b) => by
    have hvalue := optionRel_and_iff (same_and_agree type) v w
    have hrest := sameRecord_and_agree rest a b
    constructor
    · intro ⟨⟨hv, ha⟩, hv', ha'⟩
      rw [hvalue.mp ⟨hv, hv'⟩, hrest.mp ⟨ha, ha'⟩]
    · intro h
      cases h
      exact ⟨⟨(hvalue.mpr rfl).1, (hrest.mpr rfl).1⟩, (hvalue.mpr rfl).2, (hrest.mpr rfl).2⟩

end

/-! ## JSON -/

/-- How Python spells a decimal and a time in UTC; both can be read back. -/
structure ScalarText where
  decimal : Decimal → String
  time : Timestamp → String
  decimal_injective : Function.Injective decimal
  time_injective : Function.Injective time

section Json

variable (text : ScalarText)

/-- `"artifact_id":…,"contract_version":…,"created_at":…`, of an artifact inside another. -/
def identityText (artifactId : UUID) (createdAt : Timestamp) : List Char :=
  quoted "artifact_id" ++ ':' :: quoted (uuidText artifactId)
    ++ memberText "contract_version" (quoted "v3.0")
    ++ memberText "created_at" (quoted (text.time createdAt))

mutual

/-- The JSON of a value: artifacts inside are printed whole. -/
def valueText : (type : FieldType) → Value type → List Char
  | .text, v => quoted v
  | .integer, v => integerText v
  | .boolean, v => booleanText v
  | .decimal, v => quoted (text.decimal v)
  | .time, v => quoted (text.time v)
  | .uuid, v => quoted (uuidText v)
  | .list item, v => arrayText (valueText item) v
  | .artifact fields, v => '{' :: identityText text (ArtifactOf.artifactId v)
      (ArtifactOf.createdAt v) ++ recordText fields (ArtifactOf.fields v) ++ ['}']

def recordText : (fields : Fields) → Record fields → List Char
  | .nil, _ => []
  | .field name type rest, r =>
    memberText name (valueText type (Prod.fst r)) ++ recordText rest (Prod.snd r)
  | .optional name type rest, r =>
    memberText name (nullableText (valueText type) (Prod.fst r)) ++ recordText rest (Prod.snd r)

end

/-- `model_dump_json(exclude={"artifact_id", "created_at"})`. -/
def logicalJson {fields : Fields} (a : Artifact fields) : List Char :=
  '{' :: quoted "contract_version" ++ ':' :: quoted "v3.0" ++ recordText text fields a.fields
    ++ ['}']

def canonicalHash {δ : Type} (sha256 : List Char → δ) {fields : Fields} (a : Artifact fields) : δ :=
  sha256 (logicalJson text a)

/-! ## What the text determines -/

theorem recordText_endsNumber : (fields : Fields) → (r : Record fields) → {x : List Char} →
    EndsNumber x → EndsNumber (recordText text fields r ++ x)
  | .nil, _, _, h => h
  | .field name type rest, r, x, _ => by
    unfold recordText
    rw [append_assoc]
    exact memberText_endsNumber name _ _
  | .optional name type rest, r, x, _ => by
    unfold recordText
    rw [append_assoc]
    exact memberText_endsNumber name _ _

variable {text}

theorem identityText_inj {a b : UUID} {s t : Timestamp} {x y : List Char}
    (h : identityText text a s ++ x = identityText text b t ++ y) : a = b ∧ s = t ∧ x = y := by
  unfold identityText at h
  simp only [append_assoc, cons_append] at h
  have hid := (List.cons.inj (append_cancel_left h)).2
  obtain ⟨hab, hrest⟩ := quoted_valueText.delimited _ _ _ _
    (memberText_endsNumber _ _ _) (memberText_endsNumber _ _ _) hid
  have htime := memberText_cancel (append_cancel_left hrest)
  unfold quoted at htime
  simp only [cons_append, append_assoc, nil_append, List.cons.injEq,
    true_and] at htime
  obtain ⟨hst, hxy⟩ := escaped_inj htime
  exact ⟨uuidText_injective hab, text.time_injective (String.toList_inj.mp hst), hxy⟩

theorem braces_append (i r x : List Char) :
    '{' :: i ++ r ++ ['}'] ++ x = '{' :: (i ++ (r ++ '}' :: x)) := by
  simp only [append_assoc, cons_append, nil_append]

mutual

theorem valueText_valueText : (type : FieldType) → ValueText (valueText text type)
  | .text => quoted_valueText
  | .integer => integerText_valueText
  | .boolean => booleanText_valueText
  | .decimal => quoted_valueText.comp text.decimal_injective
  | .time => quoted_valueText.comp text.time_injective
  | .uuid => quoted_valueText.comp fun _ _ => uuidText_injective
  | .list item => arrayText_valueText (valueText_valueText item)
  | .artifact fields => by
    constructor
    · intro a b x y _ _ h
      have hbraces := (braces_append _ _ x).symm.trans (h.trans (braces_append _ _ y))
      obtain ⟨hid, htime, hrest⟩ := identityText_inj (List.cons.inj hbraces).2
      have hend : ∀ z : List Char, EndsNumber ('}' :: z) := fun z => endsNumber_cons (by decide)
      obtain ⟨hfields, hxy⟩ := recordText_delimited fields _ _ _ _ (hend x) (hend y) hrest
      refine ⟨?_, (List.cons.inj hxy).2⟩
      cases a
      cases b
      cases hid
      cases htime
      cases hfields
      rfl
    · intro a
      exact ⟨'{', _, rfl, by decide, by decide⟩

theorem recordText_delimited : (fields : Fields) → Delimited (recordText text fields)
  | .nil => fun _ _ _ _ _ _ h => ⟨rfl, h⟩
  | .field name type rest => by
    intro a b x y hx hy h
    unfold recordText at h
    rw [append_assoc, append_assoc] at h
    obtain ⟨hv, hrest⟩ := (valueText_valueText type).delimited _ _ _ _
      (recordText_endsNumber text rest _ hx) (recordText_endsNumber text rest _ hy)
      (memberText_cancel h)
    obtain ⟨hr, hxy⟩ := recordText_delimited rest _ _ _ _ hx hy hrest
    exact ⟨Prod.ext hv hr, hxy⟩
  | .optional name type rest => by
    intro a b x y hx hy h
    unfold recordText at h
    rw [append_assoc, append_assoc] at h
    obtain ⟨hv, hrest⟩ := nullableText_delimited (valueText_valueText type) _ _ _ _
      (recordText_endsNumber text rest _ hx) (recordText_endsNumber text rest _ hy)
      (memberText_cancel h)
    obtain ⟨hr, hxy⟩ := recordText_delimited rest _ _ _ _ hx hy hrest
    exact ⟨Prod.ext hv hr, hxy⟩

end

/-- **The logical payload** is the fields, the artifacts inside whole. -/
theorem logicalJson_eq_iff {fields : Fields} {a b : Artifact fields} :
    logicalJson text a = logicalJson text b ↔ a.fields = b.fields := by
  constructor
  · intro h
    unfold logicalJson at h
    simp only [append_assoc, cons_append, List.cons.injEq, true_and] at h
    have hrecord := append_cancel_left (List.cons.inj (append_cancel_left h)).2
    have hend : EndsNumber ['}'] := endsNumber_cons (by decide)
    exact (recordText_delimited fields _ _ _ _ hend hend hrecord).1
  · intro h
    unfold logicalJson
    rw [h]

/-- **What equal hashes mean.** -/
theorem canonicalHash_eq_iff {δ : Type} {sha256 : List Char → δ}
    (hsha : Function.Injective sha256) {fields : Fields} {a b : Artifact fields} :
    canonicalHash text sha256 a = canonicalHash text sha256 b
      ↔ SameDomain a b ∧ NestedAgree a b := by
  unfold canonicalHash SameDomain NestedAgree
  rw [sameRecord_and_agree, ← logicalJson_eq_iff]
  constructor
  · intro h
    exact hsha h
  · intro h
    rw [h]

end Json

end AdvisorAI
