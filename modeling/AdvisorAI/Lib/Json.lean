import AdvisorAI.Lib.Text

/-!
# Canonical JSON text

A serializer writes one value after another, so two texts can only be told
apart if it is clear where a value ends. `Delimited p` says that of a printer
`p`: when `p a` followed by `x` is the text `p b` followed by `y`, the values
and the rests agree. A number ends where no digit follows, and that is all
`Delimited` assumes of the rest.

The printers of scalars are here, and the ways of putting printers together:
arrays and nullable values. Each comes with its `Delimited` lemma, so that a
serializer for a data type is delimited by composition.
-/

namespace AdvisorAI.Lib.Json

open List

def EndsNumber (x : List Char) : Prop := ∀ c ∈ x.head?, c.isDigit = false

theorem endsNumber_cons {c : Char} {x : List Char} (h : c.isDigit = false) :
    EndsNumber (c :: x) := by
  intro d hd
  cases hd
  exact h

section Delimited

variable {α β : Type}

/-- What a printer wrote can be told from what follows. -/
def Delimited (p : α → List Char) : Prop :=
  ∀ a b x y, EndsNumber x → EndsNumber y → p a ++ x = p b ++ y → a = b ∧ x = y

/-- A printer of values: delimited, and never empty, `]` or the start of `null`. -/
structure ValueText (p : α → List Char) : Prop where
  delimited : Delimited p
  starts : ∀ a, ∃ c rest, p a = c :: rest ∧ c ≠ ']' ∧ c ≠ 'n'

variable {p : α → List Char}

theorem Delimited.injective (h : Delimited p) : Function.Injective p := by
  intro a b hab
  have hnil : EndsNumber [] := by
    intro c hc
    cases hc
  exact (h a b [] [] hnil hnil (by rw [hab])).1

theorem Delimited.comp (h : Delimited p) {f : β → α} (hf : Function.Injective f) :
    Delimited fun b => p (f b) := by
  intro a b x y hx hy heq
  obtain ⟨hab, hxy⟩ := h (f a) (f b) x y hx hy heq
  exact ⟨hf hab, hxy⟩

theorem ValueText.comp (h : ValueText p) {f : β → α} (hf : Function.Injective f) :
    ValueText fun b => p (f b) :=
  ⟨h.delimited.comp hf, fun b => h.starts (f b)⟩

/-! ## Strings -/

def quote : Char := Char.ofNat 34

def backslash : Char := Char.ofNat 92

/-- The characters with an escape of two characters, and its second one. -/
def shortEscapes : List (Char × Char) :=
  [(quote, quote), (backslash, backslash), (Char.ofNat 8, 'b'), (Char.ofNat 12, 'f'),
    (Char.ofNat 10, 'n'), (Char.ofNat 13, 'r'), (Char.ofNat 9, 't')]

variable (c : Char)

def escapeChar : List Char :=
  match shortEscapes.find? fun e => e.1 = c with
  | some e => [backslash, e.2]
  | none =>
    if c.toNat < 32 then
      [backslash, 'u', '0', '0', (c.toNat / 16).digitChar, (c.toNat % 16).digitChar]
    else [c]

/-- What stands for a character after a backslash. -/
def readEscape : List Char → Option (Char × List Char)
  | 'u' :: _ :: _ :: high :: low :: rest =>
    some (Char.ofNat (16 * hexDigit high + hexDigit low), rest)
  | e :: rest => (shortEscapes.find? fun p => p.2 = e).map fun p => (p.1, rest)
  | [] => none

/-- The inverse of `escapeChar`, in front of a text. -/
def unescapeChar : List Char → Option (Char × List Char)
  | [] => none
  | c :: rest => if c ≠ backslash then some (c, rest) else readEscape rest

theorem readEscape_short {e : Char × Char} (he : e ∈ shortEscapes) (x : List Char) :
    readEscape (e.2 :: x) = some (e.1, x) := by
  have hall : ∀ e ∈ shortEscapes, e.2 ≠ 'u' ∧
      (shortEscapes.find? fun p => p.2 = e.2) = some e := by
    decide
  obtain ⟨hu, hfind⟩ := hall e he
  unfold readEscape
  split
  · next heq =>
    rw [List.cons.injEq] at heq
    exact absurd heq.1 hu
  · next heq =>
    rw [List.cons.injEq] at heq
    rw [← heq.1, ← heq.2, hfind]
    rfl
  · next heq => cases heq

theorem unescapeChar_escapeChar (x : List Char) :
    unescapeChar (escapeChar c ++ x) = some (c, x) := by
  unfold escapeChar
  cases hfind : shortEscapes.find? fun e => e.1 = c with
  | some e =>
    have hc : e.1 = c := by simpa using List.find?_some hfind
    rw [← hc]
    exact readEscape_short (List.mem_of_find?_eq_some hfind) x
  | none =>
    by_cases hcontrol : c.toNat < 32
    · have hdigits : 16 * (c.toNat / 16) + c.toNat % 16 = c.toNat := by omega
      rw [if_pos hcontrol]
      show some (Char.ofNat (16 * hexDigit _ + hexDigit _), x) = some (c, x)
      rw [hexDigit_digitChar (by omega), hexDigit_digitChar (by omega), hdigits,
        Char.ofNat_toNat]
    · have hne : c ≠ backslash := by
        intro heq
        rw [heq] at hfind
        exact absurd hfind (by decide)
      rw [if_neg hcontrol]
      exact if_pos hne

theorem escapeChar_starts : ∃ d rest, escapeChar c = d :: rest ∧ d ≠ quote := by
  unfold escapeChar
  cases hfind : shortEscapes.find? fun e => e.1 = c with
  | some e => exact ⟨_, _, rfl, by decide⟩
  | none =>
    by_cases hcontrol : c.toNat < 32
    · rw [if_pos hcontrol]
      exact ⟨_, _, rfl, by decide⟩
    · rw [if_neg hcontrol]
      refine ⟨c, [], rfl, ?_⟩
      intro heq
      rw [heq] at hfind
      exact absurd hfind (by decide)

def escaped (cs : List Char) : List Char := cs.flatMap escapeChar

def quoted (s : String) : List Char := quote :: escaped s.toList ++ [quote]

theorem escaped_inj : ∀ {cs ds x y : List Char},
    escaped cs ++ quote :: x = escaped ds ++ quote :: y → cs = ds ∧ x = y
  | [], [], x, y, h => by
    cases h
    exact ⟨rfl, rfl⟩
  | [], d :: ds, x, y, h => by
    obtain ⟨e, rest, he, hne⟩ := escapeChar_starts d
    have h' : quote :: x = escapeChar d ++ (escaped ds ++ quote :: y) := by
      simpa [escaped] using h
    rw [he] at h'
    cases h'
    exact absurd rfl hne
  | c :: cs, [], x, y, h => by
    obtain ⟨e, rest, he, hne⟩ := escapeChar_starts c
    have h' : escapeChar c ++ (escaped cs ++ quote :: x) = quote :: y := by
      simpa [escaped] using h
    rw [he] at h'
    cases h'
    exact absurd rfl hne
  | c :: cs, d :: ds, x, y, h => by
    have h' : escapeChar c ++ (escaped cs ++ quote :: x)
        = escapeChar d ++ (escaped ds ++ quote :: y) := by
      simpa [escaped] using h
    -- reading one character back on both sides
    have hread := congrArg unescapeChar h'
    rw [unescapeChar_escapeChar, unescapeChar_escapeChar, Option.some.injEq,
      Prod.mk.injEq] at hread
    obtain ⟨hcs, hxy⟩ := escaped_inj hread.2
    exact ⟨by rw [hread.1, hcs], hxy⟩

theorem quoted_valueText : ValueText quoted where
  delimited := by
    intro s t x y _ _ h
    unfold quoted at h
    simp only [cons_append, append_assoc, nil_append, List.cons.injEq,
      true_and] at h
    obtain ⟨hst, hxy⟩ := escaped_inj h
    exact ⟨String.toList_inj.mp hst, hxy⟩
  starts s := ⟨quote, _, rfl, by decide, by decide⟩

/-! ## Numbers and truth values -/

def integerText : Int → List Char
  | .ofNat n => Nat.toDigits 10 n
  | .negSucc n => '-' :: Nat.toDigits 10 (n + 1)

theorem digits_inj {a b : Nat} {x y : List Char} (hx : EndsNumber x) (hy : EndsNumber y)
    (h : Nat.toDigits 10 a ++ x = Nat.toDigits 10 b ++ y) : a = b ∧ x = y := by
  have hspan : ∀ (n : Nat) (z : List Char), EndsNumber z →
      (Nat.toDigits 10 n ++ z).takeWhile Char.isDigit = Nat.toDigits 10 n := by
    intro n z hz
    have hdigits : ∀ c ∈ Nat.toDigits 10 n, c.isDigit = true :=
      fun c hc => Nat.isDigit_of_mem_toDigits (by decide) (by decide) hc
    rw [takeWhile_append_of_pos hdigits]
    cases z with
    | nil => simp
    | cons c z =>
      have hc : c.isDigit = false := hz c rfl
      simp [hc]
  have hdigits : Nat.toDigits 10 a = Nat.toDigits 10 b := by
    rw [← hspan a x hx, ← hspan b y hy, h]
  have hab : a = b := by
    rw [← Nat.ofDigitChars_ten_toDigits (n := a), hdigits, Nat.ofDigitChars_ten_toDigits]
  rw [hdigits] at h
  exact ⟨hab, append_cancel_left h⟩

theorem toDigits_starts (n : Nat) : ∃ c rest, Nat.toDigits 10 n = c :: rest ∧ c.isDigit = true := by
  cases hdigits : Nat.toDigits 10 n with
  | nil => exact absurd hdigits Nat.toDigits_ne_nil
  | cons c rest =>
    refine ⟨c, rest, rfl, ?_⟩
    have hmem : c ∈ Nat.toDigits 10 n := by
      rw [hdigits]
      exact mem_cons_self
    exact Nat.isDigit_of_mem_toDigits (by decide) (by decide) hmem

theorem integerText_valueText : ValueText integerText where
  delimited := by
    intro a b x y hx hy h
    cases a with
    | ofNat m =>
      cases b with
      | ofNat n =>
        obtain ⟨hmn, hxy⟩ := digits_inj hx hy h
        exact ⟨by rw [hmn], hxy⟩
      | negSucc n =>
        obtain ⟨c, rest, hc, hdigit⟩ := toDigits_starts m
        change Nat.toDigits 10 m ++ x = '-' :: (Nat.toDigits 10 (n + 1) ++ y) at h
        rw [hc, cons_append, List.cons.injEq] at h
        rw [h.1] at hdigit
        exact absurd hdigit (by decide)
    | negSucc m =>
      cases b with
      | ofNat n =>
        obtain ⟨c, rest, hc, hdigit⟩ := toDigits_starts n
        change '-' :: (Nat.toDigits 10 (m + 1) ++ x) = Nat.toDigits 10 n ++ y at h
        rw [hc, cons_append, List.cons.injEq] at h
        rw [← h.1] at hdigit
        exact absurd hdigit (by decide)
      | negSucc n =>
        obtain ⟨hmn, hxy⟩ := digits_inj hx hy (List.cons.inj h).2
        exact ⟨by rw [Nat.succ.inj hmn], hxy⟩
  starts n := by
    cases n with
    | ofNat n =>
      obtain ⟨c, rest, hc, hdigit⟩ := toDigits_starts n
      refine ⟨c, rest, hc, ?_, ?_⟩
      · intro heq
        rw [heq] at hdigit
        exact absurd hdigit (by decide)
      · intro heq
        rw [heq] at hdigit
        exact absurd hdigit (by decide)
    | negSucc n => exact ⟨'-', _, rfl, by decide, by decide⟩

def booleanText : Bool → List Char
  | true => "true".toList
  | false => "false".toList

theorem booleanText_valueText : ValueText booleanText where
  delimited := by
    intro a b x y _ _ h
    have ht : "true".toList = ['t', 'r', 'u', 'e'] := by decide
    have hf : "false".toList = ['f', 'a', 'l', 's', 'e'] := by decide
    cases a with
    | true =>
      cases b with
      | true => exact ⟨rfl, append_cancel_left h⟩
      | false =>
        simp only [booleanText, ht, hf, cons_append] at h
        cases h
    | false =>
      cases b with
      | true =>
        simp only [booleanText, ht, hf, cons_append] at h
        cases h
      | false => exact ⟨rfl, append_cancel_left h⟩
  starts b := by
    cases b with
    | true => exact ⟨'t', ['r', 'u', 'e'], by decide, by decide, by decide⟩
    | false => exact ⟨'f', ['a', 'l', 's', 'e'], by decide, by decide, by decide⟩

/-! ## Composition -/

/-- `null`, or a value. -/
def nullableText (p : α → List Char) : Option α → List Char
  | none => "null".toList
  | some a => p a

theorem nullableText_delimited (hp : ValueText p) : Delimited (nullableText p) := by
  intro a b x y hx hy h
  have hnull : "null".toList = ['n', 'u', 'l', 'l'] := by decide
  cases a with
  | none =>
    cases b with
    | none => exact ⟨rfl, append_cancel_left h⟩
    | some b =>
      obtain ⟨c, rest, hc, -, hn⟩ := hp.starts b
      simp only [nullableText, hnull, hc, cons_append, List.cons.injEq] at h
      exact absurd h.1.symm hn
  | some a =>
    cases b with
    | none =>
      obtain ⟨c, rest, hc, -, hn⟩ := hp.starts a
      simp only [nullableText, hnull, hc, cons_append, List.cons.injEq] at h
      exact absurd h.1 hn
    | some b =>
      obtain ⟨hab, hxy⟩ := hp.delimited a b x y hx hy h
      exact ⟨by rw [hab], hxy⟩

/-- The items after the first, and the closing bracket. -/
def itemsText (p : α → List Char) : List α → List Char
  | [] => [']']
  | a :: rest => ',' :: p a ++ itemsText p rest

def arrayText (p : α → List Char) : List α → List Char
  | [] => ['[', ']']
  | a :: rest => '[' :: p a ++ itemsText p rest

theorem itemsText_endsNumber (p : α → List Char) (items : List α) (x : List Char) :
    EndsNumber (itemsText p items ++ x) := by
  cases items with
  | nil | cons => exact endsNumber_cons (by decide)

theorem itemsText_inj (hp : Delimited p) : ∀ {l m : List α} {x y : List Char},
    itemsText p l ++ x = itemsText p m ++ y → l = m ∧ x = y
  | [], [], x, y, h => ⟨rfl, (List.cons.inj h).2⟩
  | [], b :: m, x, y, h => by cases (List.cons.inj h).1
  | a :: l, [], x, y, h => by cases (List.cons.inj h).1
  | a :: l, b :: m, x, y, h => by
    have h' : p a ++ (itemsText p l ++ x) = p b ++ (itemsText p m ++ y) := by
      simpa [itemsText] using h
    obtain ⟨hab, hrest⟩ := hp a b _ _ (itemsText_endsNumber p l x) (itemsText_endsNumber p m y) h'
    obtain ⟨hlm, hxy⟩ := itemsText_inj hp hrest
    exact ⟨by rw [hab, hlm], hxy⟩

theorem arrayText_valueText (hp : ValueText p) : ValueText (arrayText p) where
  delimited := by
    intro l m x y _ _ h
    cases l with
    | nil =>
      cases m with
      | nil => exact ⟨rfl, append_cancel_left h⟩
      | cons b m =>
        obtain ⟨c, rest, hc, hne, -⟩ := hp.starts b
        simp only [arrayText, hc, cons_append, List.cons.injEq, true_and] at h
        exact absurd h.1.symm hne
    | cons a l =>
      cases m with
      | nil =>
        obtain ⟨c, rest, hc, hne, -⟩ := hp.starts a
        simp only [arrayText, hc, cons_append, List.cons.injEq, true_and] at h
        exact absurd h.1 hne
      | cons b m =>
        have h' : p a ++ (itemsText p l ++ x) = p b ++ (itemsText p m ++ y) := by
          simpa [arrayText] using h
        obtain ⟨hab, hrest⟩ := hp.delimited a b _ _ (itemsText_endsNumber p l x)
          (itemsText_endsNumber p m y) h'
        obtain ⟨hlm, hxy⟩ := itemsText_inj hp.delimited hrest
        exact ⟨by rw [hab, hlm], hxy⟩
  starts l := by
    cases l with
    | nil | cons => exact ⟨'[', _, rfl, by decide, by decide⟩

/-- A member of an object, after the ones before it. -/
def memberText (name : String) (value : List Char) : List Char :=
  ',' :: quoted name ++ ':' :: value

theorem memberText_endsNumber (name : String) (value x : List Char) :
    EndsNumber (memberText name value ++ x) :=
  endsNumber_cons (by decide)

theorem memberText_cancel {name : String} {v w x y : List Char}
    (h : memberText name v ++ x = memberText name w ++ y) : v ++ x = w ++ y := by
  unfold memberText at h
  simp only [cons_append, append_assoc, List.cons.injEq, true_and] at h
  exact (List.cons.inj (append_cancel_left h)).2

end Delimited

end AdvisorAI.Lib.Json
