import AdvisorAI.Lib.Json

/-!
# Reading JSON

`loads` reads one JSON value from a text, `write` prints one compactly. How strings are
quoted is a parameter of `write`: with all characters outside ASCII escaped, or with
control characters escaped only; the reader takes either (`ReadBack`).

`ReadBack` holds of both ways (`quotedAscii_readBack`, `quoted_readBack`).
-/

namespace AdvisorAI.Lib.Json

open List Option

/-! ## Characters and strings -/

/-- The space, the tab and the two ends of lines. -/
def isJsonSpace (c : Char) : Bool := c.toNat ∈ [32, 9, 10, 13]

variable (cs : List Char)

def skipSpace : List Char := cs.dropWhile isJsonSpace

def readHexDigit (c : Char) : Option ℕ :=
  if c.isDigit then some (c.toNat - 48)
  else if 97 ≤ c.toNat ∧ c.toNat ≤ 102 then some (c.toNat - 87)
  else if 65 ≤ c.toNat ∧ c.toNat ≤ 70 then some (c.toNat - 55)
  else none

def readHex4 : List Char → Option (ℕ × List Char)
  | a :: b :: c :: d :: rest => do
    let a ← readHexDigit a
    let b ← readHexDigit b
    let c ← readHexDigit c
    let d ← readHexDigit d
    return (16 * (16 * (16 * a + b) + c) + d, rest)
  | _ => none

def readLowSurrogate : List Char → Option (ℕ × List Char)
  | b :: u :: rest =>
    if b = backslash ∧ u = 'u' then
      (readHex4 rest).bind fun low =>
        if 0xDC00 ≤ low.1 ∧ low.1 < 0xE000 then some (low.1 - 0xDC00, low.2) else none
    else none
  | _ => none

/-- What stands behind `\u`. A half of a surrogate pair alone is no character. -/
def readUnicode : Option (Char × List Char) :=
  (readHex4 cs).bind fun unit =>
    if 0xD800 ≤ unit.1 ∧ unit.1 < 0xDC00 then
      (readLowSurrogate unit.2).map fun low =>
        (Char.ofNat (0x10000 + 1024 * (unit.1 - 0xD800) + low.1), low.2)
    else if 0xDC00 ≤ unit.1 ∧ unit.1 < 0xE000 then none
    else some (Char.ofNat unit.1, unit.2)

/-- What a reader knows besides the escapes that a writer uses. -/
def readableEscapes : List (Char × Char) := shortEscapes ++ [('/', '/')]

/-- One character of a string, as it is or behind a backslash. -/
def readChar : List Char → Option (Char × List Char)
  | [] => none
  | c :: rest =>
    if c = backslash then
      match rest with
      | [] => none
      | e :: rest' =>
        if e = 'u' then readUnicode rest'
        else (readableEscapes.find? fun p => p.2 = e).map fun p => (p.1, rest')
    else if c.toNat < 32 then none
    else some (c, rest)

/-- The characters of a string up to its end, at most `fuel` of them. -/
def readCharacters : (fuel : ℕ) → List Char → Option (List Char × List Char)
  | 0, _ => none
  | _, [] => none
  | fuel + 1, c :: rest =>
    if c = quote then some ([], rest)
    else (readChar (c :: rest)).bind fun d =>
      (readCharacters fuel d.2).map fun s => (d.1 :: s.1, s.2)

def readString : Option (String × List Char) :=
  (readCharacters (cs.length + 1) cs).map fun s => (String.ofList s.1, s.2)

/-! ## Numbers -/

def allDigits : Bool := cs ≠ [] && cs.all Char.isDigit

def isExponent : List Char → Bool
  | [] => true
  | e :: rest =>
    (e = 'e' || e = 'E') &&
      match rest with
      | s :: digits => if s = '+' ∨ s = '-' then allDigits digits else allDigits rest
      | [] => false

def isFraction : List Char → Bool
  | '.' :: rest => rest.takeWhile Char.isDigit ≠ [] && isExponent (rest.dropWhile Char.isDigit)
  | cs => isExponent cs

/-- Digits without a zero too many, a fraction and an exponent. -/
def isUnsigned : List Char → Bool
  | '0' :: rest => isFraction rest
  | cs => cs.takeWhile Char.isDigit ≠ [] && isFraction (cs.dropWhile Char.isDigit)

def isNumber : List Char → Bool
  | '-' :: rest => isUnsigned rest
  | cs => isUnsigned cs

def isNumberChar (c : Char) : Bool := c.isDigit || c ∈ ['+', '-', '.', 'e', 'E']

@[ext]
structure NumberToken where
  text : List Char
  isNumber_eq : isNumber text = true

instance : DecidableEq NumberToken := fun _ _ => decidable_of_iff' _ NumberToken.ext_iff

/-! ## Values -/

/-- What Python's reader takes for a number although JSON has no such numbers. -/
inductive Constant where
  | nan | infinity | negativeInfinity
deriving DecidableEq

def Constant.name : Constant → List Char
  | .nan => "NaN".toList
  | .infinity => "Infinity".toList
  | .negativeInfinity => "-Infinity".toList

/-- A JSON value. A number is the text it is spelled with. -/
inductive Tree where
  | null
  | bool (b : Bool)
  | number (token : NumberToken)
  | constant (c : Constant)
  | text (s : String)
  | array (items : List Tree)
  | object (members : List (String × Tree))

def Tree.asText : Tree → Option String
  | .text s => some s
  | _ => none

/-- The value of a name; the last one counts where a name comes twice. -/
def member (members : List (String × Tree)) (name : String) : Option Tree :=
  (members.reverse.find? fun m => m.1 = name).map Prod.snd

theorem bind_of_some {α β : Type} {x : Option α} {f : α → Option β} {a : α} {b : β}
    (hx : x = some a) (h : f a = some b) : (x >>= f) = some b :=
  Option.bind_eq_some_iff.mpr ⟨a, hx, h⟩

theorem readsBack_injective {α β : Type} {print : α → β} {read : β → Option α}
    (h : ∀ a, read (print a) = some a) : Function.Injective print := by
  intro a b hab
  have hread := h a
  rw [hab, h] at hread
  exact (Option.some.inj hread).symm

/-- A value that is no number shows where it ends. -/
def Tree.closed : Tree → Bool
  | .number _ => false
  | _ => true

/-- `null`, the truth values and the constants of Python's reader. -/
def keywords : List (List Char × Tree) :=
  [("null".toList, .null), ("true".toList, .bool true), ("false".toList, .bool false),
    (Constant.nan.name, .constant .nan), (Constant.infinity.name, .constant .infinity),
    (Constant.negativeInfinity.name, .constant .negativeInfinity)]

def readScalar : Option (Tree × List Char) :=
  match keywords.find? fun k => k.1.isPrefixOf cs with
  | some k => some (k.2, cs.drop k.1.length)
  | none =>
    let token := cs.takeWhile isNumberChar
    if h : isNumber token = true then some (.number ⟨token, h⟩, cs.dropWhile isNumberChar) else none

section Sequences

variable {α : Type}

/-- The items after the first, and the closing bracket. -/
def readRest (read : List Char → Option (α × List Char)) (close : Char) :
    (fuel : ℕ) → List Char → Option (List α × List Char)
  | 0, _ => none
  | fuel + 1, cs =>
    match skipSpace cs with
    | [] => none
    | c :: rest =>
      if c = close then some ([], rest)
      else if c = ',' then
        (read rest).bind fun item =>
          (readRest read close fuel item.2).map fun items => (item.1 :: items.1, items.2)
      else none

variable (read : List Char → Option (α × List Char))

/-- The items of an array or an object, behind the opening bracket. -/
def readSequence (close : Char) (fuel : ℕ) (cs : List Char) : Option (List α × List Char) :=
  match skipSpace cs with
  | [] => none
  | c :: rest =>
    if c = close then some ([], rest)
    else (read cs).bind fun item =>
      (readRest read close fuel item.2).map fun items => (item.1 :: items.1, items.2)

def readColon (cs : List Char) :
    Option (α × List Char) :=
  match skipSpace cs with
  | [] => none
  | c :: rest => if c = ':' then read rest else none

def readMember (cs : List Char) :
    Option ((String × α) × List Char) :=
  match skipSpace cs with
  | [] => none
  | c :: rest =>
    if c = quote then
      (readString rest).bind fun name =>
        (readColon read name.2).map fun value => ((name.1, value.1), value.2)
    else none

end Sequences

/-- A value at the front of a text; `fuel` bounds how deep it is. -/
def readValue : (fuel : ℕ) → List Char → Option (Tree × List Char)
  | 0, _ => none
  | fuel + 1, cs =>
    match skipSpace cs with
    | [] => none
    | c :: rest =>
      if c = quote then (readString rest).map fun s => (.text s.1, s.2)
      else if c = '[' then
        (readSequence (readValue fuel) ']' fuel rest).map fun items => (.array items.1, items.2)
      else if c = '{' then
        (readSequence (readMember (readValue fuel)) '}' fuel rest).map fun members =>
          (.object members.1, members.2)
      else readScalar (c :: rest)

def loads (text : List Char) : Option Tree :=
  (readValue (text.length + 1) text).bind fun value =>
    if skipSpace value.2 = [] then some value.1 else none

/-! ## Writing -/

section Write

variable (quoteText : String → List Char)

mutual

def write : Tree → List Char
  | .null => "null".toList
  | .bool b => booleanText b
  | .number token => token.text
  | .constant c => c.name
  | .text s => quoteText s
  | .array [] => ['[', ']']
  | .array (item :: items) => '[' :: write item ++ writeItems items
  | .object [] => ['{', '}']
  | .object ((name, value) :: members) =>
    '{' :: quoteText name ++ ':' :: write value ++ writeMembers members

def writeItems : List Tree → List Char
  | [] => [']']
  | item :: items => ',' :: write item ++ writeItems items

def writeMembers : List (String × Tree) → List Char
  | [] => ['}']
  | (name, value) :: members =>
    ',' :: quoteText name ++ ':' :: write value ++ writeMembers members

end

end Write

/-- Nothing but ASCII: `json.dumps` escapes what is not between the space and the tilde. -/
def escapeAscii (c : Char) : List Char :=
  match shortEscapes.find? fun e => e.1 = c with
  | some e => [backslash, e.2]
  | none =>
    if 32 ≤ c.toNat ∧ c.toNat ≤ 126 then [c]
    else if c.toNat < 0x10000 then backslash :: 'u' :: hex4 c.toNat
    else backslash :: 'u' :: hex4 (0xD800 + (c.toNat - 0x10000) / 1024)
      ++ backslash :: 'u' :: hex4 (0xDC00 + (c.toNat - 0x10000) % 1024)
where
  /-- `"%04x" % n`. -/
  hex4 (n : ℕ) : List Char :=
    [(n / 4096 % 16).digitChar, (n / 256 % 16).digitChar, (n / 16 % 16).digitChar,
      (n % 16).digitChar]

/-- A string as `json.dumps` prints it. -/
def quotedAscii (s : String) : List Char := quote :: s.toList.flatMap escapeAscii ++ [quote]

/-! ## Strings are read back -/

def ReadBack (quoteText : String → List Char) : Prop :=
  ∀ s, ∃ body, quoteText s = quote :: body ∧ ∀ rest, readString (body ++ rest) = some (s, rest)

theorem readHexDigit_digitChar {d : ℕ} (h : d < 16) : readHexDigit d.digitChar = some d := by
  have hall : ∀ d < 16, readHexDigit d.digitChar = some d := by decide
  exact hall d h

theorem readHex4_hex4 {n : ℕ} (h : n < 0x10000) (rest : List Char) :
    readHex4 (escapeAscii.hex4 n ++ rest) = some (n, rest) := by
  have hvalue : 16 * (16 * (16 * (n / 4096 % 16) + n / 256 % 16) + n / 16 % 16) + n % 16 = n := by
    omega
  show (readHexDigit (n / 4096 % 16).digitChar).bind _ = _
  rw [readHexDigit_digitChar (by omega), bind_some]
  show (readHexDigit (n / 256 % 16).digitChar).bind _ = _
  rw [readHexDigit_digitChar (by omega), bind_some]
  show (readHexDigit (n / 16 % 16).digitChar).bind _ = _
  rw [readHexDigit_digitChar (by omega), bind_some]
  show (readHexDigit (n % 16).digitChar).bind _ = _
  rw [readHexDigit_digitChar (by omega), bind_some, hvalue]
  rfl

/-- An escape that one reading undoes, and that is not taken for the end of the string. -/
def Readable (escape : Char → List Char) : Prop :=
  ∀ c rest, (escape c ++ rest).head? ≠ some quote ∧ readChar (escape c ++ rest) = some (c, rest)

theorem readChar_backslash (e : Char) (rest : List Char) : readChar (backslash :: e :: rest)
    = if e = 'u' then readUnicode rest
      else (readableEscapes.find? fun p => p.2 = e).map fun p => (p.1, rest) := by
  rw [readChar, if_pos rfl]

variable {c : Char}

theorem readChar_other (hne : c ≠ backslash) (rest : List Char) :
    readChar (c :: rest) = if c.toNat < 32 then none else some (c, rest) :=
  if_neg hne

theorem readChar_short {e : Char × Char} (he : e ∈ shortEscapes) (rest : List Char) :
    readChar (backslash :: e.2 :: rest) = some (e.1, rest) := by
  have hall : ∀ e ∈ shortEscapes, e.2 ≠ 'u' ∧
      (readableEscapes.find? fun p => p.2 = e.2) = some e := by
    decide
  obtain ⟨hu, hfind⟩ := hall e he
  rw [readChar_backslash, if_neg hu, hfind]
  rfl

theorem readChar_unicode (cs : List Char) : readChar (backslash :: 'u' :: cs) = readUnicode cs :=
  (readChar_backslash 'u' cs).trans (if_pos rfl)

theorem char_not_surrogate (c : Char) :
    c.toNat < 0x110000 ∧ ¬(0xD800 ≤ c.toNat ∧ c.toNat < 0xE000) := by
  have hvalid : c.toNat.isValidChar := c.valid
  rcases hvalid with h | ⟨h₁, h₂⟩
  · exact ⟨by omega, by omega⟩
  · exact ⟨h₂, by omega⟩

theorem readUnicode_hex4 (h : c.toNat < 0x10000) (rest : List Char) :
    readUnicode (escapeAscii.hex4 c.toNat ++ rest) = some (c, rest) := by
  have hsurrogate := (char_not_surrogate c).2
  unfold readUnicode
  rw [readHex4_hex4 h, bind_some]
  rw [if_neg (show ¬(0xD800 ≤ c.toNat ∧ c.toNat < 0xDC00) by omega),
    if_neg (show ¬(0xDC00 ≤ c.toNat ∧ c.toNat < 0xE000) by omega), Char.ofNat_toNat]

theorem readUnicode_pair (h : 0x10000 ≤ c.toNat) (rest : List Char) :
    readUnicode (escapeAscii.hex4 (0xD800 + (c.toNat - 0x10000) / 1024)
      ++ backslash :: 'u' :: escapeAscii.hex4 (0xDC00 + (c.toNat - 0x10000) % 1024) ++ rest)
      = some (c, rest) := by
  have hbound := (char_not_surrogate c).1
  have hlow : readLowSurrogate (backslash :: 'u' ::
      (escapeAscii.hex4 (0xDC00 + (c.toNat - 0x10000) % 1024) ++ rest))
        = some ((c.toNat - 0x10000) % 1024, rest) := by
    show (if backslash = backslash ∧ 'u' = 'u' then (readHex4 _).bind _ else none) = _
    rw [if_pos ⟨rfl, rfl⟩, readHex4_hex4 (by omega), bind_some]
    rw [if_pos (by omega), show 0xDC00 + (c.toNat - 0x10000) % 1024 - 0xDC00
      = (c.toNat - 0x10000) % 1024 by omega]
  have hvalue : 0x10000 + 1024 * (0xD800 + (c.toNat - 0x10000) / 1024 - 0xD800)
      + (c.toNat - 0x10000) % 1024 = c.toNat := by
    omega
  unfold readUnicode
  rw [append_assoc, readHex4_hex4 (by omega), bind_some]
  rw [if_pos (by omega)]
  show (readLowSurrogate (backslash :: 'u' ::
    (escapeAscii.hex4 (0xDC00 + (c.toNat - 0x10000) % 1024) ++ rest))).map _ = _
  rw [hlow, map_some, hvalue, Char.ofNat_toNat]

theorem readChar_plain (hshort : (shortEscapes.find? fun e => e.1 = c) = none)
    (hcontrol : ¬c.toNat < 32) (rest : List Char) :
    ([c] ++ rest).head? ≠ some quote ∧ readChar ([c] ++ rest) = some (c, rest) := by
  have hne : c ≠ backslash := by
    intro heq
    rw [heq] at hshort
    exact absurd hshort (by decide)
  have hquote : c ≠ quote := by
    intro heq
    rw [heq] at hshort
    exact absurd hshort (by decide)
  refine ⟨fun h => hquote (Option.some.inj h), ?_⟩
  rw [singleton_append, readChar_other hne, if_neg hcontrol]

theorem backslash_not_quote (cs : List Char) : (backslash :: cs).head? ≠ some quote := by
  intro h
  exact absurd (Option.some.inj h) (by decide)

theorem escapeChar_readable : Readable escapeChar := by
  intro c rest
  unfold escapeChar
  cases hfind : shortEscapes.find? fun e => e.1 = c with
  | some e =>
    have hc : e.1 = c := by simpa using List.find?_some hfind
    rw [← hc]
    exact ⟨backslash_not_quote _, readChar_short (List.mem_of_find?_eq_some hfind) rest⟩
  | none =>
    by_cases hcontrol : c.toNat < 32
    · rw [if_pos hcontrol]
      refine ⟨backslash_not_quote _, ?_⟩
      have hhex : escapeAscii.hex4 c.toNat
          = ['0', '0', (c.toNat / 16).digitChar, (c.toNat % 16).digitChar] := by
        unfold escapeAscii.hex4
        rw [show c.toNat / 4096 % 16 = 0 by omega, show c.toNat / 256 % 16 = 0 by omega,
          show c.toNat / 16 % 16 = c.toNat / 16 by omega]
        rfl
      have hread := readUnicode_hex4 (c := c) (by omega) rest
      rw [hhex] at hread
      exact (readChar_unicode _).trans hread
    · rw [if_neg hcontrol]
      exact readChar_plain hfind hcontrol rest

theorem escapeAscii_readable : Readable escapeAscii := by
  intro c rest
  unfold escapeAscii
  cases hfind : shortEscapes.find? fun e => e.1 = c with
  | some e =>
    have hc : e.1 = c := by simpa using List.find?_some hfind
    rw [← hc]
    exact ⟨backslash_not_quote _, readChar_short (List.mem_of_find?_eq_some hfind) rest⟩
  | none =>
    by_cases hplain : 32 ≤ c.toNat ∧ c.toNat ≤ 126
    · rw [if_pos hplain]
      exact readChar_plain hfind (by omega) rest
    · rw [if_neg hplain]
      by_cases hsmall : c.toNat < 0x10000
      · rw [if_pos hsmall]
        exact ⟨backslash_not_quote _, (readChar_unicode _).trans (readUnicode_hex4 hsmall rest)⟩
      · rw [if_neg hsmall]
        exact ⟨backslash_not_quote _,
          (readChar_unicode _).trans (readUnicode_pair (not_lt.mp hsmall) rest)⟩

variable {escape : Char → List Char}

theorem readCharacters_flatMap (h : Readable escape) :
    ∀ (cs : List Char) (fuel : ℕ) (rest : List Char), cs.length < fuel →
      readCharacters fuel (cs.flatMap escape ++ quote :: rest) = some (cs, rest) := by
  intro cs
  induction cs with
  | nil =>
    intro fuel rest hfuel
    obtain ⟨k, rfl⟩ : ∃ k, fuel = k + 1 := ⟨fuel - 1, by simp at hfuel; omega⟩
    show readCharacters (k + 1) (quote :: rest) = some ([], rest)
    unfold readCharacters
    rw [if_pos rfl]
  | cons c cs ih =>
    intro fuel rest hfuel
    obtain ⟨k, rfl⟩ : ∃ k, fuel = k + 1 := ⟨fuel - 1, by simp at hfuel; omega⟩
    rw [flatMap_cons, append_assoc]
    obtain ⟨hquote, hread⟩ := h c (cs.flatMap escape ++ quote :: rest)
    cases htext : escape c ++ (cs.flatMap escape ++ quote :: rest) with
    | nil =>
      rw [htext] at hread
      cases hread
    | cons d text =>
      rw [htext] at hread hquote
      unfold readCharacters
      rw [if_neg fun heq => hquote (by rw [heq]; rfl), hread, bind_some,
        ih k rest (by simpa using hfuel)]
      rfl

theorem length_le_flatMap (h : Readable escape) (cs : List Char) :
    cs.length ≤ (cs.flatMap escape).length := by
  induction cs with
  | nil => exact Nat.zero_le _
  | cons c cs ih =>
    have hpos : 0 < (escape c).length := by
      by_contra hzero
      have hnil : escape c = [] := length_eq_zero_iff.mp (by omega)
      have hread := (h c []).2
      rw [hnil] at hread
      cases hread
    rw [flatMap_cons, length_append, length_cons]
    omega

theorem readBack_of_readable (h : Readable escape) :
    ReadBack fun s => quote :: s.toList.flatMap escape ++ [quote] := by
  intro s
  refine ⟨s.toList.flatMap escape ++ [quote], rfl, ?_⟩
  intro rest
  unfold readString
  have hlength : s.toList.length
      < (s.toList.flatMap escape ++ [quote] ++ rest).length + 1 := by
    have hle := length_le_flatMap h s.toList
    simp only [length_append]
    omega
  rw [append_assoc, singleton_append] at hlength ⊢
  rw [readCharacters_flatMap h _ _ _ hlength, map_some, String.ofList_toList]

theorem quoted_readBack : ReadBack quoted := readBack_of_readable escapeChar_readable

theorem quotedAscii_readBack : ReadBack quotedAscii := readBack_of_readable escapeAscii_readable

end AdvisorAI.Lib.Json
