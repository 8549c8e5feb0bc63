import AdvisorAI.Lib.JsonRoundTrip

/-!
# What a JSON text consists of

Between its quoted texts a value is printed with plain characters only (`write_chars`), and
where quoting escapes everything else the whole text is plain: `write_quotedAscii_plain`.
`integerToken` is the number an integer is printed as.
-/

namespace AdvisorAI.Lib.Json

open List

def isPlain (c : Char) : Bool := 32 ≤ c.toNat && c.toNat ≤ 126

theorem isPlain_of_numberChar {c : Char} (h : isNumberChar c = true) : isPlain c = true := by
  rcases Bool.or_eq_true_iff.mp h with hdigit | hmem
  · have hvalue : 48 ≤ c.toNat ∧ c.toNat ≤ 57 := Char.isDigit_iff_toNat.mp hdigit
    unfold isPlain
    rw [Bool.and_eq_true, decide_eq_true_eq, decide_eq_true_eq]
    omega
  · have hall : ∀ c ∈ ['+', '-', '.', 'e', 'E'], isPlain c = true := by decide
    exact hall c (of_decide_eq_true hmem)

mutual

def texts : Tree → List String
  | .text s => [s]
  | .array items => textsOf items
  | .object members => textsAt members
  | _ => []

def textsOf : List Tree → List String
  | [] => []
  | item :: items => texts item ++ textsOf items

def textsAt : List (String × Tree) → List String
  | [] => []
  | (name, value) :: members => name :: texts value ++ textsAt members

end

theorem mem_textsOf {s : String} {items : List Tree} :
    s ∈ textsOf items ↔ ∃ item ∈ items, s ∈ texts item := by
  induction items with
  | nil =>
    refine ⟨fun h => absurd h not_mem_nil, ?_⟩
    intro ⟨item, hitem, _⟩
    exact absurd hitem not_mem_nil
  | cons item items ih =>
    show s ∈ texts item ++ textsOf items ↔ _
    rw [mem_append, ih, exists_mem_cons_iff]

theorem mem_textsAt {s : String} {members : List (String × Tree)} :
    s ∈ textsAt members ↔ ∃ m ∈ members, s = m.1 ∨ s ∈ texts m.2 := by
  induction members with
  | nil =>
    refine ⟨fun h => absurd h not_mem_nil, ?_⟩
    intro ⟨m, hm, _⟩
    exact absurd hm not_mem_nil
  | cons m members ih =>
    show s ∈ m.1 :: texts m.2 ++ textsAt members ↔ _
    rw [cons_append, mem_cons, mem_append, ih, exists_mem_cons_iff, or_assoc]

section Chars

variable {quoteText : String → List Char} {P : Char → Prop} (hplain : ∀ c, isPlain c = true → P c)

include hplain

theorem plain_chars (cs : List Char) (h : cs.all isPlain = true) : ∀ c ∈ cs, P c :=
  fun c hc => hplain c (all_eq_true.mp h c hc)

omit hplain in
theorem forall_mem_append {cs ds : List Char} (hc : ∀ c ∈ cs, P c) (hd : ∀ c ∈ ds, P c) :
    ∀ c ∈ cs ++ ds, P c := by
  intro c hmem
  rcases mem_append.mp hmem with h | h
  · exact hc c h
  · exact hd c h

mutual

theorem write_chars : ∀ v : Tree, (∀ s ∈ texts v, ∀ c ∈ quoteText s, P c) →
    ∀ c ∈ write quoteText v, P c
  | .null, _ => plain_chars hplain "null".toList rfl
  | .bool true, _ => plain_chars hplain "true".toList rfl
  | .bool false, _ => plain_chars hplain "false".toList rfl
  | .number token, _ => by
    intro c hc
    exact hplain c (isPlain_of_numberChar ((isNumber_spec token.isNumber_eq).2 c hc))
  | .constant .nan, _ => plain_chars hplain Constant.nan.name rfl
  | .constant .infinity, _ => plain_chars hplain Constant.infinity.name rfl
  | .constant .negativeInfinity, _ => plain_chars hplain Constant.negativeInfinity.name rfl
  | .text s, h => h s mem_cons_self
  | .array [], _ => plain_chars hplain ['[', ']'] rfl
  | .array (item :: items), h => by
    have hitem := write_chars item fun s hs => h s (mem_append_left _ hs)
    have hitems := writeItems_chars items fun s hs => h s (mem_append_right _ hs)
    have hopen := plain_chars hplain ['['] rfl
    exact forall_mem_append (forall_mem_append hopen hitem) hitems
  | .object [], _ => plain_chars hplain ['{', '}'] rfl
  | .object ((name, value) :: members), h => by
    have hname := h name mem_cons_self
    have hvalue := write_chars value fun s hs =>
      h s (mem_cons_of_mem name (mem_append_left _ hs))
    have hmembers := writeMembers_chars members fun s hs =>
      h s (mem_cons_of_mem name (mem_append_right _ hs))
    have hopen := plain_chars hplain ['{'] rfl
    have hcolon := plain_chars hplain [':'] rfl
    exact forall_mem_append (forall_mem_append (forall_mem_append hopen hname)
      (forall_mem_append hcolon hvalue)) hmembers

theorem writeItems_chars : ∀ items : List Tree, (∀ s ∈ textsOf items, ∀ c ∈ quoteText s, P c) →
    ∀ c ∈ writeItems quoteText items, P c
  | [], _ => plain_chars hplain [']'] rfl
  | item :: items, h => by
    have hitem := write_chars item fun s hs => h s (mem_append_left _ hs)
    have hitems := writeItems_chars items fun s hs => h s (mem_append_right _ hs)
    have hcomma := plain_chars hplain [','] rfl
    exact forall_mem_append (forall_mem_append hcomma hitem) hitems

theorem writeMembers_chars : ∀ members : List (String × Tree),
    (∀ s ∈ textsAt members, ∀ c ∈ quoteText s, P c) →
    ∀ c ∈ writeMembers quoteText members, P c
  | [], _ => plain_chars hplain ['}'] rfl
  | (name, value) :: members, h => by
    have hname := h name mem_cons_self
    have hvalue := write_chars value fun s hs =>
      h s (mem_cons_of_mem name (mem_append_left _ hs))
    have hmembers := writeMembers_chars members fun s hs =>
      h s (mem_cons_of_mem name (mem_append_right _ hs))
    have hcomma := plain_chars hplain [','] rfl
    have hcolon := plain_chars hplain [':'] rfl
    exact forall_mem_append (forall_mem_append (forall_mem_append hcomma hname)
      (forall_mem_append hcolon hvalue)) hmembers

end

end Chars

section Mem

variable {quoteText : String → List Char} {t : String} {c : Char} (hc : c ∈ quoteText t)

include hc

mutual

theorem mem_write_of_text : ∀ v : Tree, t ∈ texts v → c ∈ write quoteText v
  | .text s, h => by
    rw [mem_singleton.mp h] at hc
    exact hc
  | .array (item :: items), h => by
    show c ∈ '[' :: write quoteText item ++ writeItems quoteText items
    rcases mem_append.mp h with h | h
    · exact mem_append_left _ (mem_cons_of_mem _ (mem_write_of_text item h))
    · exact mem_append_right _ (mem_writeItems_of_text items h)
  | .object ((name, value) :: members), h => by
    show c ∈ '{' :: quoteText name ++ ':' :: write quoteText value ++ writeMembers quoteText members
    rcases mem_cons.mp h with h | h
    · rw [h] at hc
      exact mem_append_left _ (mem_append_left _ (mem_cons_of_mem _ hc))
    · rcases mem_append.mp h with h | h
      · exact mem_append_left _ (mem_append_right _
          (mem_cons_of_mem _ (mem_write_of_text value h)))
      · exact mem_append_right _ (mem_writeMembers_of_text members h)

theorem mem_writeItems_of_text : ∀ items : List Tree, t ∈ textsOf items →
    c ∈ writeItems quoteText items
  | item :: items, h => by
    show c ∈ ',' :: write quoteText item ++ writeItems quoteText items
    rcases mem_append.mp h with h | h
    · exact mem_append_left _ (mem_cons_of_mem _ (mem_write_of_text item h))
    · exact mem_append_right _ (mem_writeItems_of_text items h)

theorem mem_writeMembers_of_text : ∀ members : List (String × Tree), t ∈ textsAt members →
    c ∈ writeMembers quoteText members
  | (name, value) :: members, h => by
    show c ∈ ',' :: quoteText name ++ ':' :: write quoteText value ++ writeMembers quoteText members
    rcases mem_cons.mp h with h | h
    · rw [h] at hc
      exact mem_append_left _ (mem_append_left _ (mem_cons_of_mem _ hc))
    · rcases mem_append.mp h with h | h
      · exact mem_append_left _ (mem_append_right _
          (mem_cons_of_mem _ (mem_write_of_text value h)))
      · exact mem_append_right _ (mem_writeMembers_of_text members h)

end

end Mem

theorem hex4_plain (n : ℕ) : ∀ c ∈ escapeAscii.hex4 n, isPlain c = true := by
  have hdigit : ∀ d < 16, isPlain d.digitChar = true := by decide
  intro c hc
  simp only [escapeAscii.hex4, mem_cons, not_mem_nil, or_false] at hc
  rcases hc with rfl | rfl | rfl | rfl
  · exact hdigit _ (by omega)
  · exact hdigit _ (by omega)
  · exact hdigit _ (by omega)
  · exact hdigit _ (by omega)

theorem shortEscapes_plain : ∀ e ∈ shortEscapes, isPlain e.2 = true := by decide

theorem escapeAscii_plain (c : Char) : ∀ d ∈ escapeAscii c, isPlain d = true := by
  have happend : ∀ {l m : List Char}, (∀ c ∈ l, isPlain c = true) → (∀ c ∈ m, isPlain c = true) →
      ∀ c ∈ l ++ m, isPlain c = true := fun hl hm => forall_mem_append hl hm
  have hunicode : ∀ n, ∀ d ∈ backslash :: 'u' :: escapeAscii.hex4 n, isPlain d = true :=
    fun n => happend (l := [backslash, 'u']) (by decide) (hex4_plain n)
  unfold escapeAscii
  cases hfind : shortEscapes.find? fun e => e.1 = c with
  | some e =>
    have hshort : ∀ d ∈ [e.2], isPlain d = true := by
      intro d hd
      rw [mem_singleton.mp hd]
      exact shortEscapes_plain e (List.mem_of_find?_eq_some hfind)
    exact happend (l := [backslash]) (by decide) hshort
  | none =>
    by_cases hplain : 32 ≤ c.toNat ∧ c.toNat ≤ 126
    · rw [if_pos hplain]
      intro d hd
      rw [mem_singleton.mp hd]
      unfold isPlain
      simpa using hplain
    · rw [if_neg hplain]
      by_cases hsmall : c.toNat < 0x10000
      · rw [if_pos hsmall]
        exact hunicode c.toNat
      · rw [if_neg hsmall]
        exact happend (hunicode _) (hunicode _)

theorem escapeChar_chars (c : Char) : ∀ d ∈ escapeChar c, isPlain d = true ∨ d = c ∧ 32 ≤ c.toNat := by
  unfold escapeChar
  cases hfind : shortEscapes.find? fun e => e.1 = c with
  | some e =>
    intro d hd
    rcases mem_cons.mp hd with heq | hd
    · exact Or.inl (by rw [heq]; decide)
    · rw [mem_singleton.mp hd]
      exact Or.inl (shortEscapes_plain e (List.mem_of_find?_eq_some hfind))
  | none =>
    by_cases hcontrol : c.toNat < 32
    · rw [if_pos hcontrol]
      have hdigit : ∀ d < 16, isPlain d.digitChar = true := by decide
      intro d hd
      simp only [mem_cons, not_mem_nil, or_false] at hd
      rcases hd with rfl | rfl | rfl | rfl | rfl | rfl
      · exact Or.inl (by decide)
      · exact Or.inl (by decide)
      · exact Or.inl (by decide)
      · exact Or.inl (by decide)
      · exact Or.inl (hdigit _ (by omega))
      · exact Or.inl (hdigit _ (by omega))
    · rw [if_neg hcontrol]
      intro d hd
      exact Or.inr ⟨mem_singleton.mp hd, by omega⟩

theorem quoted_chars (s : String) :
    ∀ c ∈ quoted s, isPlain c = true ∨ c ∈ s.toList ∧ 32 ≤ c.toNat := by
  intro c hc
  rcases mem_append.mp hc with hc | hc
  · rcases mem_cons.mp hc with heq | hc
    · exact Or.inl (by rw [heq]; decide)
    · obtain ⟨d, hd, hcd⟩ := mem_flatMap.mp hc
      rcases escapeChar_chars d c hcd with hplain | ⟨heq, hvalue⟩
      · exact Or.inl hplain
      · rw [heq]
        exact Or.inr ⟨hd, hvalue⟩
  · exact Or.inl (by rw [mem_singleton.mp hc]; decide)

theorem mem_quoted {s : String} {c : Char} (hc : c ∈ s.toList) (h : 126 < c.toNat) :
    c ∈ quoted s := by
  have hescape : escapeChar c = [c] := by
    unfold escapeChar
    have hfind : (shortEscapes.find? fun e => e.1 = c) = none := by
      have hsmall : ∀ e ∈ shortEscapes, e.1.toNat ≤ 126 := by decide
      rw [List.find?_eq_none]
      intro e he heq
      have hvalue := hsmall e he
      rw [of_decide_eq_true heq] at hvalue
      omega
    rw [hfind]
    exact if_neg (by omega)
  have hmem : c ∈ escaped s.toList :=
    mem_flatMap.mpr ⟨c, hc, by rw [hescape]; exact mem_cons_self⟩
  exact mem_append_left _ (mem_cons_of_mem _ hmem)

theorem quotedAscii_plain (s : String) : ∀ c ∈ quotedAscii s, isPlain c = true := by
  intro c hc
  rcases mem_append.mp hc with hc | hc
  · rcases mem_cons.mp hc with heq | hc
    · rw [heq]
      decide
    · obtain ⟨d, -, hd⟩ := mem_flatMap.mp hc
      exact escapeAscii_plain d c hd
  · rw [mem_singleton.mp hc]
    decide

theorem write_quotedAscii_plain (v : Tree) : ∀ c ∈ write quotedAscii v, isPlain c = true :=
  write_chars (fun _ h => h) v fun s _ => quotedAscii_plain s

/-! ## Integers -/

theorem isUnsigned_toDigits (n : ℕ) : isUnsigned (Nat.toDigits 10 n) = true := by
  have hfirst : ∀ n, 0 < n → ∃ c rest, Nat.toDigits 10 n = c :: rest ∧ c ≠ '0' := by
    intro n
    induction n using Nat.strongRecOn with
    | ind n ih =>
      intro hpos
      by_cases hsmall : n < 10
      · have hall : ∀ d < 10, 0 < d → d.digitChar ≠ '0' := by decide
        exact ⟨n.digitChar, [], Nat.toDigits_of_lt_base hsmall, hall n hsmall hpos⟩
      · obtain ⟨c, rest, htext, hc⟩ := ih (n / 10) (by omega) (by omega)
        refine ⟨c, rest ++ [(n % 10).digitChar], ?_, hc⟩
        rw [Nat.toDigits_of_base_le (by decide) (not_lt.mp hsmall), htext]
        rfl
  by_cases hzero : n = 0
  · rw [hzero]
    decide
  · obtain ⟨c, rest, htext, hc⟩ := hfirst n (Nat.pos_of_ne_zero hzero)
    have hdigits : ∀ d ∈ c :: rest, d.isDigit = true := by
      rw [← htext]
      exact fun _ hd => Nat.isDigit_of_mem_toDigits (by decide) (by decide) hd
    rw [htext]
    unfold isUnsigned
    split
    · next heq => exact absurd (List.cons.inj heq).1 hc
    · rw [takeWhile_eq_self_iff.mpr hdigits, dropWhile_eq_nil_iff.mpr hdigits]
      rfl

theorem isNumber_integerText (i : ℤ) : isNumber (integerText i) = true := by
  cases i with
  | ofNat n =>
    obtain ⟨c, rest, htext, hc⟩ := toDigits_starts n
    have hunsigned := isUnsigned_toDigits n
    show isNumber (Nat.toDigits 10 n) = true
    rw [htext] at hunsigned ⊢
    unfold isNumber
    split
    · next heq =>
      rw [(List.cons.inj heq).1] at hc
      exact absurd hc (by decide)
    · exact hunsigned
  | negSucc n => exact isUnsigned_toDigits (n + 1)

def integerToken (i : ℤ) : NumberToken := ⟨integerText i, isNumber_integerText i⟩

end AdvisorAI.Lib.Json
