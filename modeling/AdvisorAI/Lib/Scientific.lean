import AdvisorAI.Lib.Text

/-!
# Decimal numbers in scientific notation

The text of a number `digits · 10 ^ exponent` that keeps both: a plain decimal
where the exponent is not positive and the number not too small, one digit before
the point and an exponent otherwise. Trailing zeros are kept, so the text tells
`1` from `1.0`: `scientific_injective`.
-/

namespace AdvisorAI.Lib

open List

/-- Digits with a point after the first `point` of them, and zeros where there are
too few. -/
def pointed (digits : List Char) (point : Int) : List Char :=
  if point ≤ 0 then '0' :: '.' :: (List.replicate (-point).toNat '0' ++ digits)
  else if digits.length ≤ point.toNat then
    digits ++ List.replicate (point.toNat - digits.length) '0'
  else digits.take point.toNat ++ '.' :: digits.drop point.toNat

/-- `"%+d" % i`. -/
def signedText (i : Int) : List Char :=
  (if i < 0 then '-' else '+') :: Nat.toDigits 10 i.natAbs

/-- The text of `digits · 10 ^ exponent`. -/
def scientific (digits : Nat) (exponent : Int) : List Char :=
  let ds := Nat.toDigits 10 digits
  let left : Int := exponent + ds.length
  if exponent ≤ 0 ∧ -6 < left then pointed ds left
  else pointed ds 1 ++ 'E' :: signedText (left - 1)

/-! ## Reading it back -/

def fractionLength (cs : List Char) : Nat := (cs.dropWhile fun c => c ≠ '.').tail.length

/-- The number the digits spell, without the point. -/
def pointless (cs : List Char) : Nat := Nat.ofDigitChars 10 (cs.filter fun c => c ≠ '.') 0

theorem toDigits_isDigit (n : Nat) : ∀ c ∈ Nat.toDigits 10 n, c.isDigit = true :=
  fun _ hc => Nat.isDigit_of_mem_toDigits (by decide) (by decide) hc

section Pointed

variable {ds : List Char} {point : Int}

theorem ne_point_of_digit {c : Char} (h : c.isDigit = true) : c ≠ '.' := by
  rintro rfl
  exact absurd h (by decide)

theorem filter_digits {l : List Char} (h : ∀ c ∈ l, c.isDigit = true) :
    l.filter (fun c => c ≠ '.') = l := by
  rw [filter_eq_self]
  intro c hc
  exact decide_eq_true (ne_point_of_digit (h c hc))

theorem dropWhile_digits {l m : List Char} (h : ∀ c ∈ l, c.isDigit = true) :
    (l ++ '.' :: m).dropWhile (fun c => c ≠ '.') = '.' :: m := by
  induction l with
  | nil => rfl
  | cons c rest ih =>
    have hc : decide (c ≠ '.') = true := decide_eq_true (ne_point_of_digit (h c mem_cons_self))
    rw [cons_append, dropWhile_cons, hc, if_pos rfl]
    exact ih fun d hd => h d (mem_cons_of_mem c hd)

theorem pointed_cases (h : point ≤ ds.length) :
    (point ≤ 0 ∧ pointed ds point
      = '0' :: '.' :: (List.replicate (-point).toNat '0' ++ ds)) ∨
    (0 < point ∧ point = ds.length ∧ pointed ds point = ds) ∨ (0 < point ∧ point < ds.length ∧
      pointed ds point = ds.take point.toNat ++ '.' :: ds.drop point.toNat) := by
  unfold pointed
  by_cases hleft : point ≤ 0
  · exact Or.inl ⟨hleft, if_pos hleft⟩
  · right
    rw [if_neg hleft]
    by_cases hfew : ds.length ≤ point.toNat
    · have hpoint : point = ds.length := by omega
      refine Or.inl ⟨by omega, hpoint, ?_⟩
      rw [if_pos hfew, show point.toNat - ds.length = 0 by omega]
      exact append_nil ds
    · exact Or.inr ⟨by omega, by omega, if_neg hfew⟩

theorem pointless_pointed (hdigits : ∀ c ∈ ds, c.isDigit = true) (h : point ≤ ds.length) :
    pointless (pointed ds point) = Nat.ofDigitChars 10 ds 0 := by
  unfold pointless
  rcases pointed_cases h with ⟨-, heq⟩ | ⟨-, -, heq⟩ | ⟨-, -, heq⟩
  · rw [heq, filter_cons_of_pos (by decide), filter_cons_of_neg (by decide),
      filter_append, filter_digits hdigits, filter_digits]
    · rw [← cons_append, ← replicate_succ, Nat.ofDigitChars_append,
        Nat.ofDigitChars_replicate_zero, Nat.mul_zero]
    · intro c hc
      rw [eq_of_mem_replicate hc]
      decide
  · rw [heq, filter_digits hdigits]
  · rw [heq, filter_append, filter_cons_of_neg (by decide),
      filter_digits fun c hc => hdigits c (mem_of_mem_take hc),
      filter_digits fun c hc => hdigits c (mem_of_mem_drop hc), take_append_drop]

theorem fractionLength_pointed (hdigits : ∀ c ∈ ds, c.isDigit = true) (h : point ≤ ds.length) :
    (fractionLength (pointed ds point) : Int) = ds.length - point := by
  unfold fractionLength
  rcases pointed_cases h with ⟨hleft, heq⟩ | ⟨-, hpoint, heq⟩ | ⟨hpos, hpoint, heq⟩
  · rw [heq, dropWhile_cons_of_pos (by decide), dropWhile_cons_of_neg (by decide),
      tail_cons, length_append, length_replicate]
    omega
  · rw [heq, dropWhile_eq_nil_iff.mpr fun c hc =>
      decide_eq_true (ne_point_of_digit (hdigits c hc)), tail_nil, length_nil]
    omega
  · rw [heq, dropWhile_digits fun c hc => hdigits c (mem_of_mem_take hc), tail_cons,
      length_drop]
    omega

theorem pointed_inj {m n : Nat} {p q : Int} (hp : p ≤ (Nat.toDigits 10 m).length)
    (hq : q ≤ (Nat.toDigits 10 n).length)
    (h : pointed (Nat.toDigits 10 m) p = pointed (Nat.toDigits 10 n) q) : m = n ∧ p = q := by
  have hvalue := congrArg pointless h
  rw [pointless_pointed (toDigits_isDigit m) hp, pointless_pointed (toDigits_isDigit n) hq,
    Nat.ofDigitChars_ten_toDigits, Nat.ofDigitChars_ten_toDigits] at hvalue
  subst hvalue
  have hfraction := congrArg (fun cs => (fractionLength cs : Int)) h
  rw [fractionLength_pointed (toDigits_isDigit m) hp,
    fractionLength_pointed (toDigits_isDigit m) hq] at hfraction
  exact ⟨rfl, by omega⟩

theorem mem_pointed {c : Char} (hdigits : ∀ c ∈ ds, c.isDigit = true) (h : point ≤ ds.length)
    (hc : c ∈ pointed ds point) : c.isDigit = true ∨ c = '.' := by
  rcases pointed_cases h with ⟨-, heq⟩ | ⟨-, -, heq⟩ | ⟨-, -, heq⟩
  · rw [heq, mem_cons, mem_cons, mem_append] at hc
    rcases hc with rfl | rfl | hzero | hdigit
    · exact Or.inl (by decide)
    · exact Or.inr rfl
    · rw [eq_of_mem_replicate hzero]
      exact Or.inl (by decide)
    · exact Or.inl (hdigits c hdigit)
  · rw [heq] at hc
    exact Or.inl (hdigits c hc)
  · rw [heq, mem_append, mem_cons] at hc
    rcases hc with hfront | rfl | hback
    · exact Or.inl (hdigits c (mem_of_mem_take hfront))
    · exact Or.inr rfl
    · exact Or.inl (hdigits c (mem_of_mem_drop hback))

end Pointed

theorem mem_scientific {digits : Nat} {exponent : Int} {c : Char}
    (hc : c ∈ scientific digits exponent) : c.isDigit = true ∨ c ∈ ['.', 'E', '+', '-'] := by
  have hpointed : ∀ point : Int, point ≤ (Nat.toDigits 10 digits).length →
      c ∈ pointed (Nat.toDigits 10 digits) point → c.isDigit = true ∨ c ∈ ['.', 'E', '+', '-'] := by
    intro point hpoint hmem
    rcases mem_pointed (toDigits_isDigit digits) hpoint hmem with hdigit | rfl
    · exact Or.inl hdigit
    · exact Or.inr (by decide)
  unfold scientific at hc
  dsimp only at hc
  split at hc
  · exact hpointed _ (by omega) hc
  · rcases mem_append.mp hc with hc | hc
    · have hpos : 0 < (Nat.toDigits 10 digits).length := Nat.length_toDigits_pos
      exact hpointed 1 (by omega) hc
    · rcases mem_cons.mp hc with rfl | hc
      · exact Or.inr (by decide)
      · rcases mem_cons.mp hc with rfl | hc
        · right
          split <;> decide
        · exact Or.inl (toDigits_isDigit _ c hc)

theorem signedText_injective {i j : Int} (h : signedText i = signedText j) : i = j := by
  obtain ⟨hsign, hdigits⟩ := List.cons.inj h
  have habs : i.natAbs = j.natAbs := by
    rw [← Nat.ofDigitChars_ten_toDigits (n := i.natAbs), hdigits, Nat.ofDigitChars_ten_toDigits]
  by_cases hi : i < 0
  · by_cases hj : j < 0
    · omega
    · rw [if_pos hi, if_neg hj] at hsign
      exact absurd hsign (by decide)
  · by_cases hj : j < 0
    · rw [if_neg hi, if_pos hj] at hsign
      exact absurd hsign (by decide)
    · omega

theorem mark_not_mem_signedText (i : Int) : 'E' ∉ signedText i := by
  intro h
  rcases mem_cons.mp h with hsign | hdigit
  · split at hsign
    · exact absurd hsign (by decide)
    · exact absurd hsign (by decide)
  · exact absurd (toDigits_isDigit _ _ hdigit) (by decide)

theorem mark_not_mem_pointed {n : Nat} {point : Int}
    (h : point ≤ (Nat.toDigits 10 n).length) : 'E' ∉ pointed (Nat.toDigits 10 n) point := by
  intro hmem
  rcases mem_pointed (toDigits_isDigit n) h hmem with hdigit | hpoint
  · exact absurd hdigit (by decide)
  · exact absurd hpoint (by decide)

theorem toDigits_length_pos (n : Nat) : 0 < (Nat.toDigits 10 n).length :=
  length_pos_of_ne_nil Nat.toDigits_ne_nil

/-- **The text determines the digits and the exponent.** -/
theorem scientific_injective {m n : Nat} {i j : Int} (h : scientific m i = scientific n j) :
    m = n ∧ i = j := by
  have hm := toDigits_length_pos m
  have hn := toDigits_length_pos n
  unfold scientific at h
  by_cases hi : i ≤ 0 ∧ -6 < i + ((Nat.toDigits 10 m).length : Int)
  · rw [if_pos hi] at h
    by_cases hj : j ≤ 0 ∧ -6 < j + ((Nat.toDigits 10 n).length : Int)
    · rw [if_pos hj] at h
      obtain ⟨rfl, hpoint⟩ := pointed_inj (by omega) (by omega) h
      exact ⟨rfl, by omega⟩
    · -- only the right text has an exponent
      rw [if_neg hj] at h
      have hpoint : i + (Nat.toDigits 10 m).length ≤ (Nat.toDigits 10 m).length := by omega
      refine absurd ?_ (mark_not_mem_pointed hpoint)
      rw [h]
      exact mem_append_right _ mem_cons_self
  · rw [if_neg hi] at h
    by_cases hj : j ≤ 0 ∧ -6 < j + ((Nat.toDigits 10 n).length : Int)
    · rw [if_pos hj] at h
      have hpoint : j + (Nat.toDigits 10 n).length ≤ (Nat.toDigits 10 n).length := by omega
      refine absurd ?_ (mark_not_mem_pointed hpoint)
      rw [← h]
      exact mem_append_right _ mem_cons_self
    · rw [if_neg hj] at h
      obtain ⟨hpointed, hexponent⟩ := append_sep_inj (mark_not_mem_signedText _)
        (mark_not_mem_signedText _) h
      obtain ⟨rfl, -⟩ := pointed_inj (by omega) (by omega) hpointed
      have hleft := signedText_injective hexponent
      exact ⟨rfl, by omega⟩

theorem scientific_ne_minus (n : Nat) (i : Int) (rest : List Char) :
    '-' :: rest ≠ scientific n i := by
  intro h
  have hn := toDigits_length_pos n
  -- the first character is one of the number with its point
  have hfirst : ∀ point : Int, point ≤ (Nat.toDigits 10 n).length →
      ∀ back, '-' :: rest ≠ pointed (Nat.toDigits 10 n) point ++ back := by
    intro point hpoint back heq
    cases hshape : pointed (Nat.toDigits 10 n) point with
    | nil =>
      rcases pointed_cases hpoint with ⟨-, hthis⟩ | ⟨-, -, hthis⟩ | ⟨-, -, hthis⟩
      · rw [hthis] at hshape
        cases hshape
      · rw [hthis] at hshape
        exact Nat.toDigits_ne_nil hshape
      · rw [hthis] at hshape
        exact append_ne_nil_of_right_ne_nil _ (cons_ne_nil _ _) hshape
    | cons c tail =>
      rw [hshape, cons_append] at heq
      obtain ⟨rfl, -⟩ := List.cons.inj heq
      rcases mem_pointed (toDigits_isDigit n) hpoint (hshape ▸ mem_cons_self) with hc | hc
      · exact absurd hc (by decide)
      · exact absurd hc (by decide)
  unfold scientific at h
  dsimp only at h
  split at h
  · exact hfirst _ (by omega) [] (h.trans (append_nil _).symm)
  · exact hfirst 1 (by omega) _ h

end AdvisorAI.Lib
