import Mathlib.Data.List.DropRight
import Mathlib.Data.List.Infix

/-!
# Text as Python handles it

The venue-facing code normalises free text with `str.strip` and `str.lower`
before it compares it with a fixed set of words. Both are given here on
characters: `strip` removes the characters `str.isspace` accepts, from both
ends, and `lower` is used only where its result is compared with ASCII words.
-/

namespace AdvisorAI.Lib

open List

/-- The characters of a text one by one, where all characters there are could be gone through. -/
instance (priority := high) decidableForallText (p : Char → Prop) [DecidablePred p]
    (l : List Char) : Decidable (∀ c, c ∈ l → p c) :=
  List.decidableBAll p l

instance (priority := high) decidableExistsText (p : Char → Prop) [DecidablePred p]
    (l : List Char) : Decidable (∃ c, c ∈ l ∧ p c) :=
  List.decidableBEx p l

def isSpace (c : Char) : Bool :=
  let n := c.toNat
  (9 ≤ n && n ≤ 13) || (28 ≤ n && n ≤ 32) || n == 0x85 || n == 0xA0 || n == 0x1680
    || (0x2000 ≤ n && n ≤ 0x200A) || n == 0x2028 || n == 0x2029 || n == 0x202F || n == 0x205F
    || n == 0x3000

variable (s : String)

def strip : String :=
  String.ofList ((s.toList.dropWhile isSpace).reverse.dropWhile isSpace).reverse

/-- `c.lower()`, as far as ASCII results go: outside ASCII only the Kelvin sign
has an ASCII lower case. -/
def lowerChar (c : Char) : Char :=
  if c.toNat = 0x212A then 'k' else c.toLower

/-- `s.lower()`, for comparison with ASCII words. -/
def lower : String := String.ofList (s.toList.map lowerChar)

theorem dropWhile_trim (p : Char → Bool) (l : List Char) (h : l.dropWhile p = l) :
    (l.reverse.dropWhile p).reverse.dropWhile p = (l.reverse.dropWhile p).reverse := by
  cases l with
  | nil => rfl
  | cons c rest =>
    have hc : p c = false := by
      by_contra hp
      rw [Bool.not_eq_false] at hp
      rw [dropWhile_cons_of_pos hp] at h
      have hlen := (dropWhile_suffix p (l := rest)).length_le
      rw [h, length_cons] at hlen
      omega
    -- what is left of the reversed list ends in `c`
    obtain ⟨trimmed, htrim⟩ : ∃ trimmed,
        (rest.reverse ++ [c]).dropWhile p = trimmed ++ [c] := by
      by_cases hall : rest.reverse.dropWhile p = []
      · refine ⟨[], ?_⟩
        rw [dropWhile_append, hall]
        simp [hc]
      · refine ⟨rest.reverse.dropWhile p, ?_⟩
        rw [dropWhile_append]
        simp [hall]
    rw [reverse_cons, htrim, reverse_append]
    exact dropWhile_cons_of_neg (by simp [hc])

@[simp] theorem strip_strip : strip (strip s) = strip s := by
  have hlead : (s.toList.dropWhile isSpace).dropWhile isSpace = s.toList.dropWhile isSpace :=
    dropWhile_idempotent isSpace s.toList
  have htrail := dropWhile_trim isSpace _ hlead
  unfold strip
  rw [String.toList_ofList, htrail, reverse_reverse, dropWhile_idempotent]

/-- `part in text`. -/
def containsText (part text : String) : Bool :=
  decide (part.toList <:+: text.toList)

/-- `not s.strip()`: the text is empty or all white space. -/
def isBlank : Bool := s.toList.all isSpace

/-! What is said of a text character by character is said of the list it is made of. -/

theorem isBlank_ofList (l : List Char) : isBlank (String.ofList l) = l.all isSpace := by
  unfold isBlank
  rw [String.toList_ofList]

theorem strip_ofList (l : List Char) : strip (String.ofList l)
    = String.ofList ((l.dropWhile isSpace).reverse.dropWhile isSpace).reverse := by
  unfold strip
  rw [String.toList_ofList]

variable {l a b x y : List Char}

theorem forall_mem_ofList {P : Char → Prop} (h : ∀ c ∈ l, P c) :
    ∀ c ∈ (String.ofList l).toList, P c := by
  rw [String.toList_ofList]
  exact h

theorem isBlank_iff {s : String} : isBlank s = true ↔ strip s = "" := by
  have hempty : ∀ l : List Char, String.ofList l = "" ↔ l = [] := by
    intro l
    rw [← String.toList_inj, String.toList_ofList]
    rfl
  unfold isBlank strip
  rw [hempty, reverse_eq_nil_iff, dropWhile_eq_nil_iff, all_eq_true]
  constructor
  · intro h c hc
    rw [mem_reverse] at hc
    exact h c ((dropWhile_suffix _).subset hc)
  · intro h
    by_contra hall
    -- the first character that is no space is left
    have hne : s.toList.dropWhile isSpace ≠ [] := by
      rw [Ne, dropWhile_eq_nil_iff]
      exact hall
    have hhead := head_dropWhile_not isSpace hne
    rw [h _ (mem_reverse.mpr (head_mem hne))] at hhead
    cases hhead

@[simp] theorem isBlank_strip : isBlank (strip s) = isBlank s := by
  rw [Bool.eq_iff_iff, isBlank_iff, isBlank_iff, strip_strip]

theorem strip_of_visible {s : String} (h : ∀ c ∈ s.toList, isSpace c = false) : strip s = s := by
  have hdrop : ∀ l : List Char, (∀ c ∈ l, isSpace c = false) → l.dropWhile isSpace = l := by
    intro l hl
    cases l with
    | nil => rfl
    | cons c l => exact dropWhile_cons_of_neg (by simp [hl c mem_cons_self])
  unfold strip
  rw [hdrop _ h, hdrop _ (fun c hc => h c (mem_reverse.mp hc)), reverse_reverse,
    String.ofList_toList]

/-- `repr(s)` of a printable text: single quotes, unless only double quotes avoid an escape. -/
def pyRepr : String :=
  let quote := if s.contains (Char.ofNat 39) && !s.contains (Char.ofNat 34)
    then Char.ofNat 34 else Char.ofNat 39
  let escape (c : Char) : List Char :=
    if c = quote ∨ c = Char.ofNat 92 then [Char.ofNat 92, c]
    else if c.toNat = 10 then [Char.ofNat 92, 'n']
    else if c.toNat = 13 then [Char.ofNat 92, 'r']
    else if c.toNat = 9 then [Char.ofNat 92, 't']
    else [c]
  String.ofList (quote :: s.toList.flatMap escape ++ [quote])

variable (id : Nat)

/-- The canonical text of a UUID: 32 hexadecimal digits in five groups. -/
def uuidText : String :=
  let hex := Nat.toDigits 16 id
  let digits := List.replicate (32 - hex.length) '0' ++ hex
  String.ofList (digits.take 8 ++ '-' :: (digits.drop 8).take 4 ++ '-' :: (digits.drop 12).take 4
    ++ '-' :: (digits.drop 16).take 4 ++ '-' :: digits.drop 20)

/-! ## The text of an identifier determines it -/

def hexDigit (c : Char) : Nat := "0123456789abcdef".toList.idxOf c

/-- The number a list of hexadecimal digits spells. -/
def hexValue (cs : List Char) : Nat := cs.foldl (fun n c => 16 * n + hexDigit c) 0

theorem hexDigit_digitChar {d : Nat} (h : d < 16) : hexDigit d.digitChar = d := by
  have hall : ∀ d : Fin 16, hexDigit d.val.digitChar = d.val := by decide
  exact hall ⟨d, h⟩

theorem hexValue_concat (cs : List Char) (c : Char) :
    hexValue (cs ++ [c]) = 16 * hexValue cs + hexDigit c := by
  unfold hexValue
  rw [foldl_append]
  rfl

theorem hexValue_zeros (k : Nat) (cs : List Char) :
    hexValue (List.replicate k '0' ++ cs) = hexValue cs := by
  unfold hexValue
  rw [foldl_append]
  congr 1
  induction k with
  | zero => rfl
  | succ k ih =>
    rw [replicate_succ]
    exact ih

theorem hexValue_toDigits (n : Nat) : hexValue (Nat.toDigits 16 n) = n := by
  induction n using Nat.base_induction 16 (by decide) with
  | single d hd =>
    rw [Nat.toDigits_of_lt_base hd, ← nil_append [_], hexValue_concat, hexDigit_digitChar hd]
    simp [hexValue]
  | digit n d hd hn ih =>
    rw [← Nat.toDigits_append_toDigits (by decide) hn hd, Nat.toDigits_of_lt_base hd,
      hexValue_concat, ih, hexDigit_digitChar hd]

theorem hexadecimal_of_mem_toDigits (n : Nat) :
    ∀ c ∈ Nat.toDigits 16 n, c ∈ "0123456789abcdef".toList := by
  have hdigit : ∀ d : Fin 16, d.val.digitChar ∈ "0123456789abcdef".toList := by decide
  induction n using Nat.base_induction 16 (by decide) with
  | single d hd =>
    intro c hc
    rw [Nat.toDigits_of_lt_base hd, mem_singleton] at hc
    exact hc ▸ hdigit ⟨d, hd⟩
  | digit n d hd hn ih =>
    intro c hc
    rw [← Nat.toDigits_append_toDigits (by decide) hn hd, Nat.toDigits_of_lt_base hd,
      mem_append, mem_singleton] at hc
    rcases hc with hc | hc
    · exact ih c hc
    · exact hc ▸ hdigit ⟨d, hd⟩

theorem uuidText_digits : ∃ digits : List Char,
    (∀ c ∈ digits, c ∈ "0123456789abcdef".toList) ∧ hexValue digits = id ∧
    (uuidText id).toList = digits.take 8 ++ '-' :: (digits.drop 8).take 4
      ++ '-' :: (digits.drop 12).take 4 ++ '-' :: (digits.drop 16).take 4
      ++ '-' :: digits.drop 20 := by
  let hex := Nat.toDigits 16 id
  refine ⟨List.replicate (32 - hex.length) '0' ++ hex, ?_, ?_, ?_⟩
  · intro c hc
    rcases mem_append.mp hc with hzero | hhex
    · rw [eq_of_mem_replicate hzero]
      decide
    · exact hexadecimal_of_mem_toDigits id c hhex
  · rw [hexValue_zeros, hexValue_toDigits]
  · exact String.toList_ofList

theorem forall_mem_uuidText {P : Char → Prop} (hhex : ∀ c ∈ "0123456789abcdef".toList, P c)
    (hhyphen : P '-') (id : Nat) : ∀ c ∈ (uuidText id).toList, P c := by
  obtain ⟨digits, hdigits, -, htext⟩ := uuidText_digits id
  have hall : ∀ c ∈ digits, P c := fun c hc => hhex c (hdigits c hc)
  rw [htext]
  intro c hc
  simp only [mem_append, mem_cons] at hc
  rcases hc with (((h | rfl | h) | rfl | h) | rfl | h) | rfl | h
  all_goals first
    | exact hhyphen
    | exact hall c (mem_of_mem_take h)
    | exact hall c (mem_of_mem_drop h)
    | exact hall c (mem_of_mem_drop (mem_of_mem_take h))

theorem colon_not_mem_uuidText (id : Nat) : ':' ∉ (uuidText id).toList := fun h =>
  forall_mem_uuidText (P := fun c => c ≠ ':') (by decide) (by decide) id _ h rfl

theorem uuidText_injective {a b : Nat} (h : uuidText a = uuidText b) : a = b := by
  -- without the hyphens the text is the digits
  have hdigits : ∀ id : Nat, hexValue ((uuidText id).toList.filter fun c => c ≠ '-') = id := by
    intro id
    obtain ⟨digits, hhex, hvalue, htext⟩ := uuidText_digits id
    have hkeep : ∀ l : List Char, (∀ c ∈ l, c ∈ digits) → l.filter (fun c => c ≠ '-') = l := by
      intro l hl
      rw [filter_eq_self]
      intro c hc
      have hne : c ≠ '-' := by
        intro heq
        exact absurd (hhex c (hl c hc)) (by rw [heq]; decide)
      simpa using hne
    have hjoin : digits.take 8 ++ ((digits.drop 8).take 4 ++ ((digits.drop 12).take 4
        ++ ((digits.drop 16).take 4 ++ digits.drop 20))) = digits := by
      have h16 := take_append_drop 4 (digits.drop 16)
      have h12 := take_append_drop 4 (digits.drop 12)
      have h8 := take_append_drop 4 (digits.drop 8)
      rw [drop_drop] at h16 h12 h8
      rw [h16, h12, h8, take_append_drop]
    rw [htext]
    simp only [filter_append, filter_cons, ne_eq, not_true_eq_false, decide_false,
      Bool.false_eq_true, if_false]
    simp only [← ne_eq]
    rw [hkeep _ fun c hc => mem_of_mem_take hc,
      hkeep _ fun c hc => mem_of_mem_drop (mem_of_mem_take hc),
      hkeep _ fun c hc => mem_of_mem_drop (mem_of_mem_take hc),
      hkeep _ fun c hc => mem_of_mem_drop (mem_of_mem_take hc),
      hkeep _ fun c hc => mem_of_mem_drop hc]
    simp only [append_assoc]
    rw [hjoin, hvalue]
  rw [← hdigits a, ← hdigits b, h]

theorem natRepr_injective {a b : Nat} (h : a.repr = b.repr) : a = b := by
  have hdigits := congrArg String.toList h
  rw [Nat.toList_repr, Nat.toList_repr] at hdigits
  rw [← Nat.ofDigitChars_ten_toDigits (n := a), hdigits, Nat.ofDigitChars_ten_toDigits]

theorem append_sep_inj {c : Char} (hx : c ∉ x) (hy : c ∉ y) (h : a ++ c :: x = b ++ c :: y) :
    a = b ∧ x = y := by
  rcases append_eq_append_iff.mp h with ⟨d, hb, hd⟩ | ⟨d, ha, hd⟩
  · cases d with
    | nil => exact ⟨by simpa using hb.symm, by simpa using hd⟩
    | cons e d =>
      rw [cons_append, List.cons.injEq] at hd
      exact absurd (hd.2 ▸ mem_append_right d mem_cons_self) hx
  · cases d with
    | nil => exact ⟨by simpa using ha, by simpa using hd.symm⟩
    | cons e d =>
      rw [cons_append, List.cons.injEq] at hd
      exact absurd (hd.2 ▸ mem_append_right d mem_cons_self) hy

theorem sep_append_inj {c : Char} (ha : c ∉ a) (hb : c ∉ b) (h : a ++ c :: x = b ++ c :: y) :
    a = b ∧ x = y := by
  have hreverse := congrArg List.reverse h
  simp only [reverse_append, reverse_cons, append_assoc,
    singleton_append] at hreverse
  obtain ⟨hxy, hab⟩ := append_sep_inj (by simpa using ha) (by simpa using hb) hreverse
  exact ⟨reverse_injective hab, reverse_injective hxy⟩

example : strip " acknowledged\n" = "acknowledged" ∧ lower "FILLED" = "filled" := by decide +kernel

end AdvisorAI.Lib
