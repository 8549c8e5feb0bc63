import AdvisorAI.Lib.JsonTexts

/-!
# Base64

Three bytes are four characters of an alphabet of 64; what is left of one or two bytes is filled
up with `=`. `decode_encode` is the round trip, and `encode_plain` says that the text is ASCII.
-/

namespace AdvisorAI.Lib.Base64

open List Option

open Json (isPlain)

def alphabet : List Char :=
  ['A', 'B', 'C', 'D', 'E', 'F', 'G', 'H', 'I', 'J', 'K', 'L', 'M', 'N', 'O', 'P', 'Q', 'R', 'S',
    'T', 'U', 'V', 'W', 'X', 'Y', 'Z', 'a', 'b', 'c', 'd', 'e', 'f', 'g', 'h', 'i', 'j', 'k', 'l',
    'm', 'n', 'o', 'p', 'q', 'r', 's', 't', 'u', 'v', 'w', 'x', 'y', 'z', '0', '1', '2', '3', '4',
    '5', '6', '7', '8', '9', '+', '/']

def digit (n : ℕ) : Char := alphabet.getD n '='

def value (c : Char) : Option ℕ := if c ∈ alphabet then some (alphabet.idxOf c) else none

def encode : List UInt8 → List Char
  | [] => []
  | [a] =>
    let n := a.toNat * 65536
    [digit (n / 262144), digit (n / 4096 % 64), '=', '=']
  | [a, b] =>
    let n := a.toNat * 65536 + b.toNat * 256
    [digit (n / 262144), digit (n / 4096 % 64), digit (n / 64 % 64), '=']
  | a :: b :: c :: rest =>
    let n := a.toNat * 65536 + b.toNat * 256 + c.toNat
    digit (n / 262144) :: digit (n / 4096 % 64) :: digit (n / 64 % 64) :: digit (n % 64) ::
      encode rest

/-- The bytes of a text, when it is base64 and nothing else. -/
def decode : List Char → Option (List UInt8)
  | [] => some []
  | a :: b :: c :: d :: rest => do
    let a ← value a
    let b ← value b
    if c = '=' ∧ d = '=' ∧ rest = [] then
      return [UInt8.ofNat ((a * 262144 + b * 4096) / 65536)]
    let c ← value c
    if d = '=' ∧ rest = [] then
      let n := a * 262144 + b * 4096 + c * 64
      return [UInt8.ofNat (n / 65536), UInt8.ofNat (n / 256 % 256)]
    let d ← value d
    let n := a * 262144 + b * 4096 + c * 64 + d
    return UInt8.ofNat (n / 65536) :: UInt8.ofNat (n / 256 % 256) :: UInt8.ofNat (n % 256) ::
      (← decode rest)
  | _ => none

theorem value_digit {n : ℕ} (h : n < 64) : value (digit n) = some n := by
  have hall : ∀ n : Fin 64, value (digit n) = some (n : ℕ) := by decide +kernel
  exact hall ⟨n, h⟩

theorem value_digit_mod (n : ℕ) : value (digit (n % 64)) = some (n % 64) :=
  value_digit (Nat.mod_lt n (by decide))

theorem digit_mod_ne (n : ℕ) : digit (n % 64) ≠ '=' := by
  have hall : ∀ n : Fin 64, digit n ≠ '=' := by decide +kernel
  exact hall ⟨n % 64, Nat.mod_lt n (by decide)⟩

theorem filler_plain : isPlain '=' = true := rfl

theorem digit_plain (n : ℕ) : isPlain (digit n) = true := by
  have hall : ∀ c ∈ '=' :: alphabet, isPlain c = true := by decide
  unfold digit
  rw [getD_eq_getElem?_getD]
  cases hget : alphabet[n]? with
  | none => exact hall _ mem_cons_self
  | some c => exact hall _ (mem_cons_of_mem _ (mem_of_getElem? hget))

/-- **What is encoded is decoded.** -/
theorem decode_encode : ∀ bytes : List UInt8, decode (encode bytes) = some bytes
  | [] => rfl
  | [a] => by
    have ha : a.toNat < 256 := a.toNat_lt
    have hbyte : (a.toNat * 65536 / 262144 * 262144 + a.toNat * 65536 / 4096 % 64 * 4096) / 65536
        = a.toNat := by omega
    show decode [_, _, '=', '='] = _
    unfold decode
    simp only [value_digit (show a.toNat * 65536 / 262144 < 64 by omega), value_digit_mod,
      bind_eq_bind, bind_some, and_self, if_true, hbyte, UInt8.ofNat_toNat]
    rfl
  | [a, b] => by
    have ha : a.toNat < 256 := a.toNat_lt
    have hb : b.toNat < 256 := b.toNat_lt
    unfold encode decode
    generalize hn : a.toNat * 65536 + b.toNat * 256 = n
    rw [eq_comm] at hn
    have hjoin : n / 262144 * 262144 + n / 4096 % 64 * 4096 + n / 64 % 64 * 64 = n := by omega
    have hfirst : n / 65536 = a.toNat := by omega
    have hsecond : n / 256 % 256 = b.toNat := by omega
    simp only [value_digit (show n / 262144 < 64 by omega), value_digit_mod, digit_mod_ne,
      bind_eq_bind, bind_some, false_and, if_false, and_self, if_true, hjoin, hfirst, hsecond,
      UInt8.ofNat_toNat]
    rfl
  | a :: b :: c :: rest => by
    have ha : a.toNat < 256 := a.toNat_lt
    have hb : b.toNat < 256 := b.toNat_lt
    have hc : c.toNat < 256 := c.toNat_lt
    unfold encode decode
    generalize hn : a.toNat * 65536 + b.toNat * 256 + c.toNat = n
    rw [eq_comm] at hn
    have hjoin : n / 262144 * 262144 + n / 4096 % 64 * 4096 + n / 64 % 64 * 64 + n % 64 = n := by
      omega
    have hfirst : n / 65536 = a.toNat := by omega
    have hsecond : n / 256 % 256 = b.toNat := by omega
    have hthird : n % 256 = c.toNat := by omega
    simp only [value_digit (show n / 262144 < 64 by omega), value_digit_mod, digit_mod_ne,
      bind_eq_bind, bind_some, false_and, and_false, if_false, decode_encode rest, hjoin, hfirst,
      hsecond, hthird, UInt8.ofNat_toNat]
    rfl

theorem encode_plain : ∀ bytes : List UInt8, ∀ c ∈ encode bytes, isPlain c = true
  | [] => fun c hc => absurd hc not_mem_nil
  | [_] => by simp [encode, digit_plain, filler_plain]
  | [_, _] => by simp [encode, digit_plain, filler_plain]
  | _ :: _ :: _ :: rest => by simpa [encode, digit_plain] using encode_plain rest

theorem encode_ne_nil {bytes : List UInt8} (h : bytes ≠ []) : encode bytes ≠ [] := by
  intro hnil
  have hdecode := decode_encode bytes
  rw [hnil] at hdecode
  exact h (Option.some.inj hdecode).symm

end AdvisorAI.Lib.Base64
