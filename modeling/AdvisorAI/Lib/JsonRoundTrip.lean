import AdvisorAI.Lib.JsonReader

/-!
# What was written is read back

`loads_write` is the round trip. `loads_cut` is its counterpart for a text that ends too
early: a reader that succeeds on a text succeeds on every longer one with the same value
(`readValue_extends`), so that a text cut inside an object is no JSON at all.
-/

namespace AdvisorAI.Lib.Json

open List Option
open Bool hiding decide_eq_false decide_eq_true or_false

/-! ## Numbers -/

/-- The text does not go on with a character of a number. -/
def NumberEnds (x : List Char) : Prop := ∀ c ∈ x.head?, isNumberChar c = false

theorem numberEnds_nil : NumberEnds [] := by
  intro c hc
  cases hc

theorem numberEnds_cons {c : Char} {x : List Char} (h : isNumberChar c = false) :
    NumberEnds (c :: x) := by
  intro d hd
  cases hd
  exact h

theorem isNumberChar_of_digit {c : Char} (h : c.isDigit = true) : isNumberChar c = true := by
  unfold isNumberChar
  rw [h]
  rfl

theorem takeWhile_digits_numberChar (cs : List Char) :
    ∀ c ∈ cs.takeWhile Char.isDigit, isNumberChar c = true := by
  intro c hc
  exact isNumberChar_of_digit (mem_takeWhile_imp hc)

theorem isExponent_chars {cs : List Char} (h : isExponent cs = true) :
    ∀ c ∈ cs, isNumberChar c = true := by
  have hdigits : ∀ {ds : List Char}, allDigits ds = true → ∀ c ∈ ds, isNumberChar c = true := by
    intro ds hds c hc
    exact isNumberChar_of_digit (List.all_eq_true.mp (and_eq_true_iff.mp hds).2 c hc)
  cases cs with
  | nil => exact fun c hc => absurd hc not_mem_nil
  | cons e rest =>
    obtain ⟨he, hrest⟩ := and_eq_true_iff.mp h
    have hletter : isNumberChar e = true := by
      rcases or_eq_true_iff.mp he with heq | heq
      · rw [of_decide_eq_true heq]
        decide
      · rw [of_decide_eq_true heq]
        decide
    intro c hc
    rcases mem_cons.mp hc with heq | hc
    · rw [heq]
      exact hletter
    · cases rest with
      | nil => exact absurd hc not_mem_nil
      | cons s digits =>
        dsimp only at hrest
        by_cases hsign : s = '+' ∨ s = '-'
        · rw [if_pos hsign] at hrest
          rcases mem_cons.mp hc with heq | hc
          · rw [heq]
            rcases hsign with hplus | hminus
            · rw [hplus]
              decide
            · rw [hminus]
              decide
          · exact hdigits hrest c hc
        · rw [if_neg hsign] at hrest
          exact hdigits hrest c hc

theorem isFraction_chars {cs : List Char} (h : isFraction cs = true) :
    ∀ c ∈ cs, isNumberChar c = true := by
  unfold isFraction at h
  split at h
  · next rest =>
    obtain ⟨-, hexponent⟩ := and_eq_true_iff.mp h
    intro c hc
    rcases mem_cons.mp hc with heq | hc
    · rw [heq]
      decide
    · rw [← takeWhile_append_dropWhile (p := Char.isDigit) (l := rest)] at hc
      rcases mem_append.mp hc with hdigit | hrest
      · exact takeWhile_digits_numberChar rest c hdigit
      · exact isExponent_chars hexponent c hrest
  · exact isExponent_chars h

theorem isUnsigned_spec {cs : List Char} (h : isUnsigned cs = true) :
    (∃ c rest, cs = c :: rest ∧ c.isDigit = true) ∧ ∀ c ∈ cs, isNumberChar c = true := by
  unfold isUnsigned at h
  split at h
  · next rest =>
    refine ⟨⟨_, rest, rfl, by decide⟩, ?_⟩
    intro c hc
    rcases mem_cons.mp hc with heq | hc
    · rw [heq]
      decide
    · exact isFraction_chars h c hc
  · obtain ⟨hdigits, hfraction⟩ := and_eq_true_iff.mp h
    have hne : cs.takeWhile Char.isDigit ≠ [] := by simpa using hdigits
    refine ⟨?_, ?_⟩
    · cases cs with
      | nil => exact absurd rfl hne
      | cons c rest =>
        refine ⟨c, rest, rfl, ?_⟩
        by_contra hc
        rw [takeWhile_cons_of_neg hc] at hne
        exact hne rfl
    · intro c hc
      rw [← takeWhile_append_dropWhile (p := Char.isDigit) (l := cs)] at hc
      rcases mem_append.mp hc with hdigit | hrest
      · exact takeWhile_digits_numberChar cs c hdigit
      · exact isFraction_chars hfraction c hrest

def startsNumber : List Char → Bool
  | c :: d :: _ => c.isDigit || c = '-' && d.isDigit
  | [c] => c.isDigit
  | [] => false

theorem startsNumber_append {cs : List Char} (h : startsNumber cs = true) (rest : List Char) :
    startsNumber (cs ++ rest) = true := by
  match cs, h with
  | [c], h =>
    cases rest with
    | nil => exact h
    | cons d rest => exact or_eq_true_iff.mpr (Or.inl h)
  | c :: d :: more, h => exact h

theorem isNumber_spec {cs : List Char} (h : isNumber cs = true) :
    startsNumber cs = true ∧ ∀ c ∈ cs, isNumberChar c = true := by
  unfold isNumber at h
  split at h
  · next rest =>
    obtain ⟨⟨d, more, rfl, hd⟩, hchars⟩ := isUnsigned_spec h
    have hstart : startsNumber ('-' :: d :: more) = true := by
      show (('-' : Char).isDigit || decide (('-' : Char) = '-') && d.isDigit) = true
      rw [hd]
      rfl
    refine ⟨hstart, ?_⟩
    intro c hc
    rcases mem_cons.mp hc with heq | hc
    · rw [heq]
      decide
    · exact hchars c hc
  · obtain ⟨⟨c, rest, rfl, hc⟩, hchars⟩ := isUnsigned_spec h
    have hdigit : startsNumber [c] = true := hc
    exact ⟨startsNumber_append hdigit rest, hchars⟩

theorem keywords_not_number {cs : List Char} (h : startsNumber cs = true) :
    (keywords.find? fun k => k.1.isPrefixOf cs) = none := by
  have hkeys : ∀ k ∈ keywords, 2 ≤ k.1.length ∧ startsNumber k.1 = false := by decide
  rw [List.find?_eq_none]
  intro k hk hprefix
  obtain ⟨hlength, hno⟩ := hkeys k hk
  obtain ⟨rest, rfl⟩ := isPrefixOf_iff_prefix.mp hprefix
  obtain ⟨c, d, more, hword⟩ : ∃ c d more, k.1 = c :: d :: more := by
    cases hk1 : k.1 with
    | nil =>
      rw [hk1] at hlength
      exact absurd hlength (by decide)
    | cons c ds =>
      cases ds with
      | nil =>
        rw [hk1] at hlength
        exact absurd hlength (by simp)
      | cons d more => exact ⟨c, d, more, rfl⟩
  rw [hword] at h hno
  rw [show startsNumber ((c :: d :: more) ++ rest) = startsNumber (c :: d :: more) from rfl, hno] at h
  cases h

theorem takeWhile_number {cs x : List Char} (hcs : ∀ c ∈ cs, isNumberChar c = true)
    (hx : NumberEnds x) : (cs ++ x).takeWhile isNumberChar = cs := by
  rw [takeWhile_append_of_pos hcs]
  cases x with
  | nil => simp
  | cons c x =>
    rw [takeWhile_cons_of_neg (by rw [hx c rfl]; exact Bool.false_ne_true), append_nil]

theorem dropWhile_number {cs x : List Char} (hcs : ∀ c ∈ cs, isNumberChar c = true)
    (hx : NumberEnds x) : (cs ++ x).dropWhile isNumberChar = x := by
  have hsplit := takeWhile_append_dropWhile (p := isNumberChar) (l := cs ++ x)
  rw [takeWhile_number hcs hx] at hsplit
  exact append_cancel_left hsplit

theorem readScalar_number (token : NumberToken) {x : List Char} (hx : NumberEnds x) :
    readScalar (token.text ++ x) = some (.number token, x) := by
  obtain ⟨hstart, hchars⟩ := isNumber_spec token.isNumber_eq
  unfold readScalar
  rw [keywords_not_number (startsNumber_append hstart x)]
  rw [dropWhile_number hchars hx]
  have htoken : isNumber ((token.text ++ x).takeWhile isNumberChar) = true := by
    rw [takeWhile_number hchars hx]
    exact token.isNumber_eq
  rw [dif_pos htoken]
  refine congrArg some (Prod.ext ?_ rfl)
  exact congrArg Tree.number (NumberToken.ext (takeWhile_number hchars hx))

theorem readScalar_null (x : List Char) : readScalar ("null".toList ++ x) = some (.null, x) := rfl

theorem readScalar_bool (b : Bool) (x : List Char) :
    readScalar (booleanText b ++ x) = some (.bool b, x) := by
  cases b with
  | true => rfl
  | false => rfl

theorem readScalar_constant (c : Constant) (x : List Char) :
    readScalar (c.name ++ x) = some (.constant c, x) := by
  cases c with
  | nan => rfl
  | infinity => rfl
  | negativeInfinity => rfl

/-! ## The round trip -/

mutual

/-- How much fuel the reader needs for a value. -/
def size : Tree → ℕ
  | .array items => 1 + sizeItems items
  | .object members => 1 + sizeMembers members
  | _ => 1

def sizeItems : List Tree → ℕ
  | [] => 1
  | item :: items => size item + sizeItems items

def sizeMembers : List (String × Tree) → ℕ
  | [] => 1
  | (_, value) :: members => size value + sizeMembers members

end

theorem size_pos (v : Tree) : 0 < size v := by
  cases v <;> simp only [size] <;> omega

theorem sizeItems_pos (items : List Tree) : 0 < sizeItems items := by
  cases items with
  | nil => exact Nat.one_pos
  | cons item items =>
    have hpos := size_pos item
    simp only [sizeItems]
    omega

theorem sizeMembers_pos (members : List (String × Tree)) : 0 < sizeMembers members := by
  cases members with
  | nil => exact Nat.one_pos
  | cons member members =>
    have hpos := size_pos member.2
    simp only [sizeMembers]
    omega

theorem skipSpace_cons {c : Char} (h : isJsonSpace c = false) (rest : List Char) :
    skipSpace (c :: rest) = c :: rest :=
  dropWhile_cons_of_neg (by rw [h]; exact Bool.false_ne_true)

/-- What the reader takes for a scalar when a value starts with it. -/
def startsScalar (c : Char) : Bool :=
  !isJsonSpace c && c ∉ [quote, '[', '{', ']']

theorem startsScalar_digit {c : Char} (h : c.isDigit = true) : startsScalar c = true := by
  have hspace : isJsonSpace c = false := by
    have hdigit : 48 ≤ c.toNat ∧ c.toNat ≤ 57 := Char.isDigit_iff_toNat.mp h
    refine decide_eq_false fun hmem => ?_
    have hvalue : c.toNat = 32 ∨ c.toNat = 9 ∨ c.toNat = 10 ∨ c.toNat = 13 := by simpa using hmem
    omega
  have hother : ∀ d ∈ [quote, '[', '{', ']'], d.isDigit = false := by decide
  unfold startsScalar
  rw [hspace]
  refine decide_eq_true fun hmem => ?_
  rw [hother c hmem] at h
  cases h

theorem startsNumber_startsScalar {cs : List Char} (h : startsNumber cs = true) :
    ∃ c rest, cs = c :: rest ∧ startsScalar c = true := by
  match cs, h with
  | [c], h => exact ⟨c, [], rfl, startsScalar_digit h⟩
  | c :: d :: more, h =>
    refine ⟨c, d :: more, rfl, ?_⟩
    rcases or_eq_true_iff.mp h with hdigit | hminus
    · exact startsScalar_digit hdigit
    · rw [of_decide_eq_true (and_eq_true_iff.mp hminus).1]
      decide

section Scalars

variable {c : Char} (h : startsScalar c = true)

include h

theorem startsScalar_space : isJsonSpace c = false := by
  simpa using (and_eq_true_iff.mp h).1

theorem startsScalar_ne {d : Char} (hd : d ∈ [quote, '[', '{', ']']) : c ≠ d := by
  intro heq
  have hno : c ∉ [quote, '[', '{', ']'] := of_decide_eq_true (and_eq_true_iff.mp h).2
  exact hno (heq ▸ hd)

theorem readValue_scalar (fuel : ℕ) (rest : List Char) :
    readValue (fuel + 1) (c :: rest) = readScalar (c :: rest) := by
  have hquote : c ≠ quote := startsScalar_ne h (by decide)
  have harray : c ≠ '[' := startsScalar_ne h (by decide)
  have hobject : c ≠ '{' := startsScalar_ne h (by decide)
  rw [readValue, skipSpace_cons (startsScalar_space h)]
  dsimp only
  rw [if_neg hquote, if_neg harray, if_neg hobject]

end Scalars

section Sequences

variable {α : Type} {read : List Char → Option (α × List Char)} {close : Char}
  (hclose : isJsonSpace close = false)

include hclose

theorem readRest_nil (fuel : ℕ) (x : List Char) :
    readRest read close (fuel + 1) (close :: x) = some ([], x) := by
  unfold readRest
  rw [skipSpace_cons hclose]
  dsimp only
  rw [if_pos rfl]

theorem readSequence_nil (fuel : ℕ) (x : List Char) :
    readSequence read close fuel (close :: x) = some ([], x) := by
  unfold readSequence
  rw [skipSpace_cons hclose]
  dsimp only
  rw [if_pos rfl]

omit hclose

variable {item : α} {items : List α} {fuel : ℕ} {cs more x : List Char}

theorem readRest_cons (hcomma : close ≠ ',') (hitem : read cs = some (item, more))
    (hrest : readRest read close fuel more = some (items, x)) :
    readRest read close (fuel + 1) (',' :: cs) = some (item :: items, x) := by
  unfold readRest
  rw [skipSpace_cons (by decide)]
  dsimp only
  rw [if_neg hcomma.symm, if_pos rfl, hitem, bind_some]
  rw [hrest]
  rfl

theorem readSequence_cons {c : Char} {rest : List Char} (hspace : isJsonSpace c = false)
    (hc : c ≠ close) (hcs : cs = c :: rest) (hitem : read cs = some (item, more))
    (hrest : readRest read close fuel more = some (items, x)) :
    readSequence read close fuel cs = some (item :: items, x) := by
  unfold readSequence
  have hskip : skipSpace cs = c :: rest := by
    rw [hcs]
    exact skipSpace_cons hspace rest
  rw [hskip]
  dsimp only
  rw [if_neg hc, hitem, bind_some]
  rw [hrest]
  rfl

end Sequences

section RoundTrip

variable {quoteText : String → List Char} (hquote : ReadBack quoteText)

include hquote

theorem readString_quoteText (s : String) (x : List Char) :
    ∃ body, quoteText s ++ x = quote :: body ∧ readString body = some (s, x) := by
  obtain ⟨body, hbody, hread⟩ := hquote s
  exact ⟨body ++ x, by rw [hbody]; rfl, hread x⟩

theorem write_starts (v : Tree) (x : List Char) : ∃ c rest,
    write quoteText v ++ x = c :: rest ∧ isJsonSpace c = false ∧ c ≠ ']' := by
  match v with
  | .null => exact ⟨_, _, rfl, by decide, by decide⟩
  | .bool true => exact ⟨_, _, rfl, by decide, by decide⟩
  | .bool false => exact ⟨_, _, rfl, by decide, by decide⟩
  | .number token =>
    have hstart := startsNumber_append (isNumber_spec token.isNumber_eq).1 x
    obtain ⟨c, rest, heq, hc⟩ := startsNumber_startsScalar hstart
    exact ⟨c, rest, heq, startsScalar_space hc, startsScalar_ne hc (by decide)⟩
  | .constant .nan => exact ⟨_, _, rfl, by decide, by decide⟩
  | .constant .infinity => exact ⟨_, _, rfl, by decide, by decide⟩
  | .constant .negativeInfinity => exact ⟨_, _, rfl, by decide, by decide⟩
  | .text s =>
    obtain ⟨body, heq, -⟩ := readString_quoteText hquote s x
    exact ⟨quote, body, heq, by decide, by decide⟩
  | .array [] => exact ⟨_, _, rfl, by decide, by decide⟩
  | .array (item :: items) => exact ⟨_, _, rfl, by decide, by decide⟩
  | .object [] => exact ⟨_, _, rfl, by decide, by decide⟩
  | .object ((name, value) :: members) => exact ⟨_, _, rfl, by decide, by decide⟩

omit hquote in
theorem writeItems_ends (items : List Tree) (x : List Char) :
    NumberEnds (writeItems quoteText items ++ x) := by
  cases items with
  | nil | cons => exact numberEnds_cons (by decide)

omit hquote in
theorem writeMembers_ends (members : List (String × Tree)) (x : List Char) :
    NumberEnds (writeMembers quoteText members ++ x) := by
  cases members with
  | nil | cons => exact numberEnds_cons (by decide)

theorem readMember_cons {read : List Char → Option (Tree × List Char)} {name : String}
    {value : Tree} {cs x : List Char} (h : read cs = some (value, x)) :
    readMember read (quoteText name ++ ':' :: cs) = some ((name, value), x) := by
  obtain ⟨body, heq, hread⟩ := readString_quoteText hquote name (':' :: cs)
  have hcolon : readColon read (':' :: cs) = some (value, x) := by
    unfold readColon
    rw [skipSpace_cons (by decide)]
    dsimp only
    rw [if_pos rfl, h]
  unfold readMember
  rw [heq, skipSpace_cons (by decide)]
  dsimp only
  rw [if_pos rfl, hread, bind_some]
  rw [hcolon]
  rfl

omit hquote in
theorem readValue_array (fuel : ℕ) (cs : List Char) : readValue (fuel + 1) ('[' :: cs)
    = (readSequence (readValue fuel) ']' fuel cs).map fun items => (.array items.1, items.2) := by
  rw [readValue, skipSpace_cons (by decide)]
  dsimp only
  rw [if_neg (by decide), if_pos rfl]

omit hquote in
theorem readValue_object (fuel : ℕ) (cs : List Char) : readValue (fuel + 1) ('{' :: cs)
    = (readSequence (readMember (readValue fuel)) '}' fuel cs).map fun members =>
      (.object members.1, members.2) := by
  rw [readValue, skipSpace_cons (by decide)]
  dsimp only
  rw [if_neg (by decide), if_neg (by decide), if_pos rfl]

mutual

theorem readValue_write : ∀ (v : Tree) (fuel : ℕ) (x : List Char), size v ≤ fuel → NumberEnds x →
    readValue fuel (write quoteText v ++ x) = some (v, x)
  | v, 0, x, h, _ => by
    have hpos := size_pos v
    omega
  | .null, fuel + 1, x, _, _ => (readValue_scalar (by decide) fuel _).trans (readScalar_null x)
  | .bool true, fuel + 1, x, _, _ =>
    (readValue_scalar (by decide) fuel _).trans (readScalar_bool true x)
  | .bool false, fuel + 1, x, _, _ =>
    (readValue_scalar (by decide) fuel _).trans (readScalar_bool false x)
  | .constant .nan, fuel + 1, x, _, _ =>
    (readValue_scalar (by decide) fuel _).trans (readScalar_constant .nan x)
  | .constant .infinity, fuel + 1, x, _, _ =>
    (readValue_scalar (by decide) fuel _).trans (readScalar_constant .infinity x)
  | .constant .negativeInfinity, fuel + 1, x, _, _ =>
    (readValue_scalar (by decide) fuel _).trans (readScalar_constant .negativeInfinity x)
  | .number token, fuel + 1, x, _, hx => by
    have hstart := startsNumber_append (isNumber_spec token.isNumber_eq).1 x
    obtain ⟨c, rest, heq, hc⟩ := startsNumber_startsScalar hstart
    show readValue (fuel + 1) (token.text ++ x) = _
    rw [heq, readValue_scalar hc, ← heq]
    exact readScalar_number token hx
  | .text s, fuel + 1, x, _, _ => by
    obtain ⟨body, hbody, hread⟩ := readString_quoteText hquote s x
    show readValue (fuel + 1) (quoteText s ++ x) = _
    rw [hbody, readValue, skipSpace_cons (by decide)]
    dsimp only
    rw [if_pos rfl, hread]
    rfl
  | .array [], fuel + 1, x, _, _ => by
    show readValue (fuel + 1) ('[' :: ']' :: x) = _
    rw [readValue_array, readSequence_nil (by decide)]
    rfl
  | .array (item :: items), fuel + 1, x, h, _ => by
    simp only [size, sizeItems] at h
    obtain ⟨c, rest, hc, hspace, hne⟩ :=
      write_starts hquote item (writeItems quoteText items ++ x)
    have hread := readSequence_cons hspace hne hc
      (readValue_write item fuel _ (by omega) (writeItems_ends items x))
      (readRest_writeItems items fuel fuel x (by omega) (by omega))
    show readValue (fuel + 1) ('[' :: write quoteText item ++ writeItems quoteText items ++ x) = _
    rw [cons_append, cons_append, append_assoc, readValue_array, hread]
    rfl
  | .object [], fuel + 1, x, _, _ => by
    show readValue (fuel + 1) ('{' :: '}' :: x) = _
    rw [readValue_object, readSequence_nil (by decide)]
    rfl
  | .object ((name, value) :: members), fuel + 1, x, h, _ => by
    simp only [size, sizeMembers] at h
    obtain ⟨body, hc, -⟩ := readString_quoteText hquote name
      (':' :: (write quoteText value ++ (writeMembers quoteText members ++ x)))
    have hread := readSequence_cons (by decide) (by decide) hc (readMember_cons hquote
        (readValue_write value fuel _ (by omega) (writeMembers_ends members x)))
      (readRest_writeMembers members fuel fuel x (by omega) (by omega))
    show readValue (fuel + 1)
      ('{' :: quoteText name ++ ':' :: write quoteText value ++ writeMembers quoteText members ++ x) = _
    rw [cons_append, cons_append, cons_append, append_assoc, append_assoc, cons_append,
      readValue_object, hread]
    rfl

theorem readRest_writeItems : ∀ (items : List Tree) (fuel left : ℕ) (x : List Char),
    sizeItems items ≤ fuel → sizeItems items ≤ left →
    readRest (readValue fuel) ']' left (writeItems quoteText items ++ x) = some (items, x)
  | items, fuel, 0, x, _, h => by
    have hpos := sizeItems_pos items
    omega
  | [], fuel, left + 1, x, _, _ => readRest_nil (by decide) left x
  | item :: items, fuel, left + 1, x, hfuel, hleft => by
    have hpos := size_pos item
    simp only [sizeItems] at hfuel hleft
    have hitem := readValue_write item fuel (writeItems quoteText items ++ x) (by omega)
      (writeItems_ends items x)
    have hitems := readRest_writeItems items fuel left x (by omega) (by omega)
    show readRest _ _ _ (',' :: write quoteText item ++ writeItems quoteText items ++ x) = _
    rw [cons_append, cons_append, append_assoc]
    exact readRest_cons (by decide) hitem hitems

theorem readRest_writeMembers : ∀ (members : List (String × Tree)) (fuel left : ℕ) (x : List Char),
    sizeMembers members ≤ fuel → sizeMembers members ≤ left →
    readRest (readMember (readValue fuel)) '}' left (writeMembers quoteText members ++ x)
      = some (members, x)
  | members, fuel, 0, x, _, h => by
    have hpos := sizeMembers_pos members
    omega
  | [], fuel, left + 1, x, _, _ => readRest_nil (by decide) left x
  | (name, value) :: members, fuel, left + 1, x, hfuel, hleft => by
    have hpos := size_pos value
    simp only [sizeMembers] at hfuel hleft
    have hvalue := readValue_write value fuel (writeMembers quoteText members ++ x) (by omega)
      (writeMembers_ends members x)
    have hmembers := readRest_writeMembers members fuel left x (by omega) (by omega)
    show readRest _ _ _
      (',' :: quoteText name ++ ':' :: write quoteText value ++ writeMembers quoteText members ++ x) = _
    rw [cons_append, cons_append, cons_append, append_assoc, append_assoc, cons_append]
    exact readRest_cons (by decide) (readMember_cons hquote hvalue) hmembers

end

mutual

theorem size_le_length : ∀ v : Tree, size v ≤ (write quoteText v).length
  | .null => Nat.le_of_ble_eq_true rfl
  | .bool true => Nat.le_of_ble_eq_true rfl
  | .bool false => Nat.le_of_ble_eq_true rfl
  | .number token => by
    obtain ⟨c, rest, heq, -⟩ := startsNumber_startsScalar (isNumber_spec token.isNumber_eq).1
    show 1 ≤ token.text.length
    rw [heq]
    exact Nat.succ_le_succ (Nat.zero_le _)
  | .constant .nan => Nat.le_of_ble_eq_true rfl
  | .constant .infinity => Nat.le_of_ble_eq_true rfl
  | .constant .negativeInfinity => Nat.le_of_ble_eq_true rfl
  | .text s => by
    obtain ⟨body, hbody, -⟩ := hquote s
    show 1 ≤ (quoteText s).length
    rw [hbody]
    exact Nat.succ_le_succ (Nat.zero_le _)
  | .array [] => by simp [size, sizeItems, write]
  | .array (item :: items) => by
    have hitem := size_le_length item
    have hitems := sizeItems_le_length items
    simp only [size, sizeItems, write, length_cons, length_append]
    omega
  | .object [] => by simp [size, sizeMembers, write]
  | .object ((name, value) :: members) => by
    have hvalue := size_le_length value
    have hmembers := sizeMembers_le_length members
    simp only [size, sizeMembers, write, length_cons, length_append]
    omega

theorem sizeItems_le_length : ∀ items : List Tree,
    sizeItems items ≤ (writeItems quoteText items).length
  | [] => Nat.le_refl 1
  | item :: items => by
    have hitem := size_le_length item
    have hitems := sizeItems_le_length items
    simp only [sizeItems, writeItems, length_cons, length_append]
    omega

theorem sizeMembers_le_length : ∀ members : List (String × Tree),
    sizeMembers members ≤ (writeMembers quoteText members).length
  | [] => Nat.le_refl 1
  | (name, value) :: members => by
    have hvalue := size_le_length value
    have hmembers := sizeMembers_le_length members
    simp only [sizeMembers, writeMembers, length_cons, length_append]
    omega

end

/-- **What was written is read back.** -/
theorem loads_write (v : Tree) : loads (write quoteText v) = some v := by
  have hsize := size_le_length hquote v
  have hread := readValue_write hquote v ((write quoteText v).length + 1) [] (by omega) numberEnds_nil
  rw [append_nil] at hread
  unfold loads
  rw [hread]
  rfl

end RoundTrip

/-! ## Longer texts -/

section Extends

variable {α β : Type}

/-- What `read` reads from a text, `read'` reads from a longer one, and leaves the rest. -/
def Extends (read read' : List Char → Option (α × List Char)) : Prop :=
  ∀ cs value rest more, read cs = some (value, rest) → rest ≠ [] →
    read' (cs ++ more) = some (value, rest ++ more)

/-- Likewise, also where `read` reaches the end of its text. -/
def Closes (read read' : List Char → Option (α × List Char)) : Prop :=
  ∀ cs value rest more, read cs = some (value, rest) →
    read' (cs ++ more) = some (value, rest ++ more)

theorem skipSpace_append {cs rest : List Char} {c : Char} (h : skipSpace cs = c :: rest)
    (more : List Char) : skipSpace (cs ++ more) = c :: (rest ++ more) := by
  induction cs with
  | nil => cases h
  | cons d cs ih =>
    unfold skipSpace at h ih ⊢
    rw [cons_append, dropWhile_cons]
    rw [dropWhile_cons] at h
    by_cases hspace : isJsonSpace d = true
    · rw [if_pos hspace] at h ⊢
      exact ih h
    · rw [if_neg hspace] at h ⊢
      rw [← cons_append, ← cons_append, h]

theorem skipped {f f' : Char → List Char → Option (α × List Char)} {cs rest more : List Char}
    {value : α} (hf : ∀ c tail, f c tail = some (value, rest) →
      f' c (tail ++ more) = some (value, rest ++ more))
    (h : (match skipSpace cs with | [] => none | c :: tail => f c tail) = some (value, rest)) :
    (match skipSpace (cs ++ more) with | [] => none | c :: tail => f' c tail)
      = some (value, rest ++ more) := by
  cases hskip : skipSpace cs with
  | nil =>
    rw [hskip] at h
    cases h
  | cons c tail =>
    rw [hskip] at h
    rw [skipSpace_append hskip]
    exact hf c tail h

theorem readHex4_closes : Closes readHex4 readHex4 := by
  intro cs value rest more h
  match cs, h with
  | a :: b :: c :: d :: tail, h =>
    obtain ⟨w, hw, h⟩ := bind_eq_some_iff.mp h
    obtain ⟨x, hx, h⟩ := bind_eq_some_iff.mp h
    obtain ⟨y, hy, h⟩ := bind_eq_some_iff.mp h
    obtain ⟨z, hz, h⟩ := bind_eq_some_iff.mp h
    cases h
    show (readHexDigit a).bind _ = _
    rw [hw, hx, hy, hz]
    rfl

theorem readLowSurrogate_closes : Closes readLowSurrogate readLowSurrogate := by
  intro cs value rest more h
  match cs, h with
  | b :: u :: tail, h =>
    unfold readLowSurrogate at h ⊢
    dsimp only [cons_append] at h ⊢
    by_cases hescape : b = backslash ∧ u = 'u'
    · rw [if_pos hescape] at h ⊢
      obtain ⟨low, hlow, h⟩ := bind_eq_some_iff.mp h
      rw [readHex4_closes tail low.1 low.2 more hlow, bind_some]
      split at h
      · next hrange =>
        obtain ⟨hvalue, hrest⟩ := Prod.mk.inj (Option.some.inj h)
        rw [if_pos hrange, hvalue, hrest]
      · cases h
    · rw [if_neg hescape] at h
      cases h

theorem readUnicode_closes : Closes readUnicode readUnicode := by
  intro cs value rest more h
  unfold readUnicode at h ⊢
  obtain ⟨unit, hunit, h⟩ := bind_eq_some_iff.mp h
  rw [readHex4_closes cs unit.1 unit.2 more hunit, bind_some]
  by_cases hhigh : 0xD800 ≤ unit.1 ∧ unit.1 < 0xDC00
  · rw [if_pos hhigh] at h ⊢
    obtain ⟨low, hlow, h⟩ := map_eq_some_iff.mp h
    cases h
    rw [readLowSurrogate_closes unit.2 low.1 low.2 more hlow]
    rfl
  · rw [if_neg hhigh] at h ⊢
    by_cases hlow : 0xDC00 ≤ unit.1 ∧ unit.1 < 0xE000
    · rw [if_pos hlow] at h
      cases h
    · rw [if_neg hlow] at h ⊢
      cases h
      rfl

theorem readChar_closes : Closes readChar readChar := by
  intro cs value rest more h
  cases cs with
  | nil => cases h
  | cons c cs =>
    by_cases hslash : c = backslash
    · subst hslash
      cases cs with
      | nil =>
        rw [readChar, if_pos rfl] at h
        cases h
      | cons e cs =>
        rw [readChar_backslash] at h
        rw [cons_append, cons_append, readChar_backslash]
        by_cases hu : e = 'u'
        · rw [if_pos hu] at h ⊢
          exact readUnicode_closes cs value rest more h
        · rw [if_neg hu] at h ⊢
          obtain ⟨p, hp, h⟩ := map_eq_some_iff.mp h
          cases h
          rw [hp]
          rfl
    · rw [readChar_other hslash] at h
      rw [cons_append, readChar_other hslash]
      by_cases hcontrol : c.toNat < 32
      · rw [if_pos hcontrol] at h
        cases h
      · rw [if_neg hcontrol] at h ⊢
        cases h
        rfl

theorem readCharacters_closes {fuel fuel' : ℕ} (hle : fuel ≤ fuel') :
    Closes (readCharacters fuel) (readCharacters fuel') := by
  intro cs value rest more h
  induction fuel generalizing fuel' cs value with
  | zero => cases h
  | succ fuel ih =>
    obtain ⟨k, rfl⟩ : ∃ k, fuel' = k + 1 := ⟨fuel' - 1, by omega⟩
    cases cs with
    | nil => cases h
    | cons c cs =>
      unfold readCharacters at h ⊢
      dsimp only [cons_append]
      by_cases hquote : c = quote
      · rw [if_pos hquote] at h ⊢
        cases h
        rfl
      · rw [if_neg hquote] at h ⊢
        obtain ⟨d, hd, h⟩ := bind_eq_some_iff.mp h
        obtain ⟨s, hs, h⟩ := map_eq_some_iff.mp h
        cases h
        rw [← cons_append, readChar_closes (c :: cs) d.1 d.2 more hd, bind_some]
        rw [ih (by omega) d.2 s.1 hs]
        rfl

theorem readString_closes : Closes readString readString := by
  intro cs value rest more h
  unfold readString at h ⊢
  obtain ⟨s, hs, h⟩ := map_eq_some_iff.mp h
  cases h
  have hle : cs.length + 1 ≤ (cs ++ more).length + 1 := by
    rw [length_append]
    omega
  rw [readCharacters_closes hle cs s.1 s.2 more hs]
  rfl

theorem readScalar_keyword : ∀ k ∈ keywords, ∀ x, readScalar (k.1 ++ x) = some (k.2, x) := by
  intro k hk x
  simp only [keywords, mem_cons, not_mem_nil, or_false] at hk
  rcases hk with rfl | rfl | rfl | rfl | rfl | rfl
  · exact readScalar_null x
  · exact readScalar_bool true x
  · exact readScalar_bool false x
  · exact readScalar_constant .nan x
  · exact readScalar_constant .infinity x
  · exact readScalar_constant .negativeInfinity x

theorem readScalar_extends : Extends readScalar readScalar := by
  intro cs value rest more h hrest
  unfold readScalar at h
  cases hfind : keywords.find? fun k => k.1.isPrefixOf cs with
  | some k =>
    rw [hfind] at h
    cases h
    have hstarts : k.1.isPrefixOf cs = true := by simpa using List.find?_some hfind
    obtain ⟨tail, rfl⟩ := isPrefixOf_iff_prefix.mp hstarts
    rw [append_assoc, readScalar_keyword k (List.mem_of_find?_eq_some hfind),
      drop_left]
  | none =>
    rw [hfind] at h
    by_cases htoken : isNumber (cs.takeWhile isNumberChar) = true
    · rw [dif_pos htoken] at h
      cases h
      have hends : NumberEnds (cs.dropWhile isNumberChar ++ more) := by
        intro c hc
        cases hdrop : cs.dropWhile isNumberChar with
        | nil => exact absurd hdrop hrest
        | cons d tail =>
          rw [hdrop] at hc
          cases hc
          have hhead := head_dropWhile_not isNumberChar (l := cs) hrest
          simpa [hdrop] using hhead
      have hread := readScalar_number ⟨_, htoken⟩ hends
      rwa [← append_assoc, takeWhile_append_dropWhile] at hread
    · rw [dif_neg htoken] at h
      cases h

variable {read read' : List Char → Option (α × List Char)} {close : Char}

/-- An item and the rest of its sequence. -/
theorem readItem_closes (hread : Extends read read') {fuel fuel' : ℕ}
    (hclose : Closes (readRest read close fuel) (readRest read' close fuel')) :
    Closes (fun cs => (read cs).bind fun item =>
        (readRest read close fuel item.2).map fun items => (item.1 :: items.1, items.2))
      (fun cs => (read' cs).bind fun item =>
        (readRest read' close fuel' item.2).map fun items => (item.1 :: items.1, items.2)) := by
  intro cs value rest more h
  obtain ⟨item, hitem, h⟩ := bind_eq_some_iff.mp h
  obtain ⟨items, hitems, h⟩ := map_eq_some_iff.mp h
  cases h
  have hne : item.2 ≠ [] := by
    intro hnil
    rw [hnil] at hitems
    cases fuel <;> cases hitems
  dsimp only
  rw [hread cs item.1 item.2 more hitem hne, bind_some]
  rw [hclose item.2 items.1 items.2 more hitems]
  rfl

theorem readRest_closes (hread : Extends read read') {fuel fuel' : ℕ} (hle : fuel ≤ fuel') :
    Closes (readRest read close fuel) (readRest read' close fuel') := by
  induction fuel generalizing fuel' with
  | zero =>
    intro cs value rest more h
    cases h
  | succ fuel ih =>
    obtain ⟨k, rfl⟩ : ∃ k, fuel' = k + 1 := ⟨fuel' - 1, by omega⟩
    have hk : fuel ≤ k := by omega
    intro cs value rest more h
    refine skipped (fun c tail h => ?_) h
    by_cases hc : c = close
    · rw [if_pos hc] at h ⊢
      cases h
      rfl
    · rw [if_neg hc] at h ⊢
      by_cases hcomma : c = ','
      · rw [if_pos hcomma] at h ⊢
        exact readItem_closes hread (ih hk) tail value rest more h
      · rw [if_neg hcomma] at h
        cases h

theorem readSequence_closes (hread : Extends read read') {fuel fuel' : ℕ} (hle : fuel ≤ fuel') :
    Closes (readSequence read close fuel) (readSequence read' close fuel') := by
  intro cs value rest more h
  refine skipped (fun c tail h => ?_) h
  by_cases hc : c = close
  · rw [if_pos hc] at h ⊢
    cases h
    rfl
  · rw [if_neg hc] at h ⊢
    exact readItem_closes hread (readRest_closes hread hle) cs value rest more h

theorem readColon_extends (hread : Extends read read') :
    Extends (readColon read) (readColon read') := by
  intro cs value rest more h hrest
  refine skipped (fun c tail h => ?_) h
  by_cases hc : c = ':'
  · rw [if_pos hc] at h ⊢
    exact hread tail value rest more h hrest
  · rw [if_neg hc] at h
    cases h

theorem readMember_extends (hread : Extends read read') :
    Extends (readMember read) (readMember read') := by
  intro cs value rest more h hrest
  refine skipped (fun c tail h => ?_) h
  by_cases hc : c = quote
  · rw [if_pos hc] at h ⊢
    obtain ⟨name, hname, h⟩ := bind_eq_some_iff.mp h
    obtain ⟨member, hmember, h⟩ := map_eq_some_iff.mp h
    cases h
    rw [readString_closes tail name.1 name.2 more hname, bind_some]
    rw [readColon_extends hread name.2 member.1 member.2 more hmember hrest]
    rfl
  · rw [if_neg hc] at h
    cases h

/-- **A longer text starts with the same value**, with the fuel that its length allows. -/
theorem readValue_extends {fuel fuel' : ℕ} (hle : fuel ≤ fuel') :
    Extends (readValue fuel) (readValue fuel') := by
  induction fuel generalizing fuel' with
  | zero =>
    intro cs value rest more h
    cases h
  | succ fuel ih =>
    obtain ⟨k, rfl⟩ : ∃ k, fuel' = k + 1 := ⟨fuel' - 1, by omega⟩
    have hk : fuel ≤ k := by omega
    intro cs value rest more h hrest
    refine skipped (fun c tail h => ?_) h
    by_cases hquote : c = quote
    · rw [if_pos hquote] at h ⊢
      obtain ⟨s, hs, h⟩ := map_eq_some_iff.mp h
      cases h
      rw [readString_closes tail s.1 s.2 more hs]
      rfl
    · rw [if_neg hquote] at h ⊢
      by_cases harray : c = '['
      · rw [if_pos harray] at h ⊢
        obtain ⟨items, hitems, h⟩ := map_eq_some_iff.mp h
        cases h
        rw [readSequence_closes (ih hk) hk tail items.1 items.2 more hitems]
        rfl
      · rw [if_neg harray] at h ⊢
        by_cases hobject : c = '{'
        · rw [if_pos hobject] at h ⊢
          obtain ⟨members, hmembers, h⟩ := map_eq_some_iff.mp h
          cases h
          rw [readSequence_closes (readMember_extends (ih hk)) hk tail members.1 members.2 more
            hmembers]
          rfl
        · rw [if_neg hobject] at h ⊢
          rw [← cons_append]
          exact readScalar_extends (c :: tail) value rest more h hrest

end Extends

theorem readValue_object_closes {fuel fuel' : ℕ} (hle : fuel ≤ fuel') {tail rest : List Char}
    {value : Tree} (h : readValue fuel ('{' :: tail) = some (value, rest)) (more : List Char) :
    readValue fuel' ('{' :: tail ++ more) = some (value, rest ++ more) := by
  cases fuel with
  | zero => cases h
  | succ fuel =>
    obtain ⟨k, rfl⟩ : ∃ k, fuel' = k + 1 := ⟨fuel' - 1, by omega⟩
    have hk : fuel ≤ k := by omega
    rw [readValue_object] at h
    rw [cons_append, readValue_object]
    obtain ⟨members, hmembers, h⟩ := map_eq_some_iff.mp h
    cases h
    rw [readSequence_closes (readMember_extends (readValue_extends hk)) hk tail members.1 members.2
      more hmembers]
    rfl

/-- **An object that is cut is no JSON.** -/
theorem loads_cut {quoteText : String → List Char} (hquote : ReadBack quoteText)
    {members : List (String × Tree)} {part more : List Char}
    (h : write quoteText (.object members) = part ++ more) (hmore : more ≠ []) :
    loads part = none := by
  cases hread : readValue (part.length + 1) part with
  | none =>
    unfold loads
    rw [hread]
    rfl
  | some value =>
    exfalso
    obtain ⟨body, hbody⟩ : ∃ body, write quoteText (.object members) = '{' :: body := by
      cases members with
      | nil => exact ⟨_, rfl⟩
      | cons member members => exact ⟨_, rfl⟩
    obtain ⟨tail, rfl⟩ : ∃ tail, part = '{' :: tail := by
      cases part with
      | nil => cases hread
      | cons c tail =>
        rw [hbody] at h
        exact ⟨tail, by rw [(List.cons.inj h).1]⟩
    have hsize := size_le_length hquote (.object members)
    have hwhole := readValue_write hquote (.object members)
      ((write quoteText (.object members)).length + 1) [] (by omega) numberEnds_nil
    have hle : ('{' :: tail).length + 1 ≤ (write quoteText (.object members)).length + 1 := by
      rw [h, length_append]
      omega
    have hlonger := readValue_object_closes hle hread more
    rw [← h] at hlonger
    rw [append_nil, hlonger] at hwhole
    exact hmore (append_eq_nil_iff.mp (Prod.mk.inj (Option.some.inj hwhole)).2).2

end AdvisorAI.Lib.Json
