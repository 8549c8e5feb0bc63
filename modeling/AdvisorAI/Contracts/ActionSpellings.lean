import AdvisorAI.Contracts.AuthorityActions

/-!
# Spellings of an action

The normal form of an action is its own normal form, and an action is judged by it. The words of
an action can be put together with any character between them that is no letter and no digit, and
mostly with capital letters: `spellings_judged_alike`. An acronym runs into the word after it.
-/

namespace AdvisorAI

open Lib List

/-! ## Characters -/

variable {c d : Char}

theorem of_ascii (P : Char → Prop) (hall : ∀ n < 128, P (Char.ofNat n)) (h : c.toNat < 128) :
    P c := by
  have hc := hall c.toNat h
  rwa [Char.ofNat_toNat] at hc

theorem name_ascii (h : isNameChar c = true) : c.toNat < 128 := by
  have hle : ∀ {d : Char}, c ≤ d → c.toNat ≤ d.toNat := fun h => h
  have hz : 'z'.toNat = 122 := rfl
  have h9 : '9'.toNat = 57 := rfl
  have hZ : 'Z'.toNat = 90 := rfl
  unfold isNameChar isLowerOrDigit isUpperLetter at h
  rw [Bool.or_eq_true, decide_eq_true_eq, decide_eq_true_eq] at h
  rcases h with (h | h) | h
  all_goals
    have := hle h.2
    omega

theorem name_char (h : isNameChar c = true) : isSpace c = false ∧ c ≠ '_' ∧
    isLowerOrDigit (lowerChar c) = true ∧ lowerChar c ≠ '_' := by
  refine of_ascii (fun c => isNameChar c = true → isSpace c = false ∧ c ≠ '_' ∧
    isLowerOrDigit (lowerChar c) = true ∧ lowerChar c ≠ '_') ?_ (name_ascii h) h
  decide +kernel

theorem lower_char (h : isLowerOrDigit c = true) : isNameChar c = true ∧
    isUpperLetter c = false ∧ lowerChar c = c ∧ lowerChar c.toUpper = c ∧
    isNameChar c.toUpper = true := by
  have hname : isNameChar c = true := by
    unfold isNameChar
    rw [h, Bool.true_or]
  refine ⟨hname, of_ascii (fun c => isLowerOrDigit c = true → isUpperLetter c = false ∧
    lowerChar c = c ∧ lowerChar c.toUpper = c ∧ isNameChar c.toUpper = true) ?_
    (name_ascii hname) h⟩
  decide +kernel

/-! ## Words -/

def joined (sep : Char) : List (List Char) → List Char
  | [] => []
  | [word] => word
  | word :: rest => word ++ sep :: joined sep rest

/-- Words are made of the characters that are kept. -/
def Words (keep : Char → Bool) (words : List (List Char)) : Prop :=
  ∀ word ∈ words, word ≠ [] ∧ ∀ c ∈ word, keep c = true

instance (keep : Char → Bool) (words : List (List Char)) : Decidable (Words keep words) :=
  inferInstanceAs (Decidable (∀ _ ∈ words, _))

variable {keep : Char → Bool} {sep : Char} {words : List (List Char)}

variable {word text l u v w : List Char}

theorem joined_cons (h : words ≠ []) :
    joined sep (word :: words) = word ++ sep :: joined sep words := by
  cases words with
  | nil => exact absurd rfl h
  | cons _ _ => rfl

theorem joined_starts (sep : Char) (h : Words keep words) (hne : words ≠ []) :
    ∃ c tail, joined sep words = c :: tail ∧ keep c = true := by
  obtain ⟨word, rest, rfl⟩ := exists_cons_of_ne_nil hne
  obtain ⟨hword, hkeep⟩ := h word mem_cons_self
  obtain ⟨c, tail, rfl⟩ := exists_cons_of_ne_nil hword
  cases rest with
  | nil => exact ⟨c, tail, rfl, hkeep c mem_cons_self⟩
  | cons _ _ => exact ⟨c, _, rfl, hkeep c mem_cons_self⟩

theorem joined_ends (sep : Char) (h : Words keep words) (hne : words ≠ []) :
    ∃ front c, joined sep words = front ++ [c] ∧ keep c = true := by
  induction words with
  | nil => exact absurd rfl hne
  | cons word rest ih =>
    by_cases hrest : rest = []
    · obtain ⟨hword, hkeep⟩ := h word mem_cons_self
      rw [hrest]
      exact ⟨word.dropLast, word.getLast hword, (dropLast_concat_getLast hword).symm,
        hkeep _ (getLast_mem hword)⟩
    · obtain ⟨front, c, heq, hc⟩ := ih (fun w hw => h w (mem_cons_of_mem word hw)) hrest
      refine ⟨word ++ sep :: front, c, ?_, hc⟩
      rw [joined_cons hrest, heq, append_assoc]
      rfl

variable (pre post : List Char)

theorem trim_joined {p : Char → Bool} (sep : Char) (h : Words keep words)
    (hp : ∀ c, keep c = true → p c = false) (hpre : ∀ c ∈ pre, p c = true)
    (hpost : ∀ c ∈ post, p c = true) :
    (((pre ++ joined sep words ++ post).dropWhile p).reverse.dropWhile p).reverse
      = joined sep words := by
  have hdrop : ∀ {before l : List Char}, (∀ c ∈ before, p c = true) →
      (l = [] ∨ ∃ c tail, l = c :: tail ∧ keep c = true) → (before ++ l).dropWhile p = l := by
    intro before l hbefore hl
    rw [dropWhile_append_of_pos hbefore]
    rcases hl with rfl | ⟨c, tail, rfl, hc⟩
    · rfl
    · exact dropWhile_cons_of_neg (by rw [hp c hc]; exact Bool.false_ne_true)
  by_cases hne : words = []
  · subst hne
    have hall : ∀ c ∈ pre ++ joined sep [] ++ post, p c = true := by
      intro c hc
      rw [show joined sep [] = [] from rfl, append_nil] at hc
      exact (mem_append.mp hc).elim (hpre c) (hpost c)
    rw [dropWhile_eq_nil_iff.mpr hall]
    rfl
  · obtain ⟨c, tail, hstart, hc⟩ := joined_starts sep h hne
    obtain ⟨front, d, hend, hd⟩ := joined_ends sep h hne
    rw [append_assoc, hdrop hpre (.inr ⟨c, tail ++ post, by rw [hstart]; rfl, hc⟩),
      reverse_append, hdrop (fun c hc => hpost c (mem_reverse.mp hc)) (.inr ⟨d,
        front.reverse, by rw [hend, reverse_append]; rfl, hd⟩), reverse_reverse]

theorem squeeze_word (h : ∀ c ∈ word, keep c = true) (tail : List Char) :
    squeeze keep false (word ++ tail) = word ++ squeeze keep false tail := by
  induction word with
  | nil => rfl
  | cons c rest ih =>
    rw [cons_append, squeeze, if_pos (h c mem_cons_self),
      ih fun d hd => h d (mem_cons_of_mem c hd)]
    rfl

theorem squeeze_run (keep : Char → Bool) (l : List Char) : squeeze keep false l = squeeze keep true l ∨
    squeeze keep false l = '_' :: squeeze keep true l := by
  cases l with
  | nil => exact .inl rfl
  | cons c rest =>
    rw [squeeze, squeeze]
    by_cases hc : keep c = true
    · rw [if_pos hc, if_pos hc]
      exact .inl rfl
    · rw [if_neg hc, if_neg hc]
      exact .inr rfl

theorem squeeze_joined (hsep : keep sep = false) (h : Words keep words) :
    squeeze keep false (joined sep words) = joined '_' words := by
  induction words with
  | nil => rfl
  | cons word rest ih =>
    have hword := (h word mem_cons_self).2
    have hrest : Words keep rest := fun w hw => h w (mem_cons_of_mem word hw)
    by_cases hne : rest = []
    · have hone := squeeze_word hword []
      rw [append_nil, show squeeze keep false [] = [] from rfl, append_nil] at hone
      rw [hne]
      exact hone
    · obtain ⟨c, tail, hstart, hc⟩ := joined_starts sep hrest hne
      have hrun : squeeze keep true (joined sep rest) = squeeze keep false (joined sep rest) := by
        rw [hstart, squeeze, squeeze, if_pos hc, if_pos hc]
      rw [joined_cons hne, joined_cons hne, squeeze_word hword, squeeze,
        if_neg (by rw [hsep]; exact Bool.false_ne_true), if_neg Bool.false_ne_true, hrun, ih hrest]

/-- What is squeezed are words, with an underscore after them at most. -/
theorem squeeze_words (keep : Char → Bool) (l : List Char) : ∃ words, Words keep words ∧
    ∃ post, (∀ c ∈ post, c = '_') ∧ squeeze keep true l = joined '_' words ++ post ∧
      (words = [] → post = []) := by
  induction l with
  | nil => exact ⟨[], fun _ h => absurd h not_mem_nil, [], fun _ h => absurd h not_mem_nil,
      rfl, fun _ => rfl⟩
  | cons c rest ih =>
    obtain ⟨words, hwords, post, hpost, hrest, hnil⟩ := ih
    rw [squeeze]
    by_cases hc : keep c = true
    · rw [if_pos hc]
      have hone : Words keep ([c] :: words) := by
        intro w hw
        rcases mem_cons.mp hw with rfl | hw
        · exact ⟨cons_ne_nil _ _, fun d hd => by rwa [mem_singleton.mp hd]⟩
        · exact hwords w hw
      rcases squeeze_run keep rest with hrun | hrun
      · rw [hrun, hrest]
        cases words with
        | nil =>
          rw [hnil rfl]
          exact ⟨_, hone, [], fun _ h => absurd h not_mem_nil, rfl,
            fun h => absurd h (cons_ne_nil _ _)⟩
        | cons w ws =>
          refine ⟨(c :: w) :: ws, ?_, post, hpost, ?_, fun h => absurd h (cons_ne_nil _ _)⟩
          · intro v hv
            rcases mem_cons.mp hv with rfl | hv
            · exact ⟨cons_ne_nil _ _, forall_mem_cons.mpr
                ⟨hc, (hwords w mem_cons_self).2⟩⟩
            · exact hwords v (mem_cons_of_mem w hv)
          · cases ws with
            | nil => rfl
            | cons _ _ => rfl
      · rw [hrun, hrest]
        by_cases hne : words = []
        · refine ⟨_, hone, ['_'], fun d hd => mem_singleton.mp hd, ?_,
            fun h => absurd h (cons_ne_nil _ _)⟩
          rw [hne, hnil hne]
          rfl
        · refine ⟨_, hone, post, hpost, ?_, fun h => absurd h (cons_ne_nil _ _)⟩
          rw [joined_cons hne]
          rfl
    · rw [if_neg hc, if_pos rfl]
      exact ⟨words, hwords, post, hpost, hrest, hnil⟩

/-! ## The normal form -/

def snakeCase (words : List (List Char)) : String := String.ofList (joined '_' words)

theorem map_joined (f : Char → Char) (sep : Char) (words : List (List Char)) :
    (joined sep words).map f = joined (f sep) (words.map (List.map f)) := by
  induction words with
  | nil => rfl
  | cons word rest ih =>
    by_cases hne : rest = []
    · rw [hne]
      rfl
    · rw [joined_cons hne, map_append, map_cons, ih, map_cons,
        joined_cons (by simpa using hne)]

theorem stripUnderscores_joined (h : Words isNameChar words) (hpre : ∀ c ∈ pre, c = '_')
    (hpost : ∀ c ∈ post, c = '_') :
    stripUnderscores (pre ++ joined '_' words ++ post) = joined '_' words :=
  trim_joined pre post '_' h (fun _ hc => decide_eq_false (name_char hc).2.1)
    (fun _ hc => decide_eq_true (hpre _ hc)) fun _ hc => decide_eq_true (hpost _ hc)

theorem squeeze_lowered (h : Words isNameChar words) :
    squeeze (fun c => decide (c ≠ '_')) false ((joined '_' words).map lowerChar)
      = joined '_' (words.map (List.map lowerChar)) := by
  rw [map_joined, show lowerChar '_' = '_' from rfl]
  refine squeeze_joined (by decide) ?_
  intro word hword
  obtain ⟨w, hw, rfl⟩ := mem_map.mp hword
  obtain ⟨hne, hkeep⟩ := h w hw
  refine ⟨by simpa using hne, ?_⟩
  intro c hc
  obtain ⟨d, hd, rfl⟩ := mem_map.mp hc
  exact decide_eq_true (name_char (hkeep d hd)).2.2.2

theorem lowered_words (h : Words isNameChar words) :
    Words isLowerOrDigit (words.map (List.map lowerChar)) := by
  intro word hword
  obtain ⟨w, hw, rfl⟩ := mem_map.mp hword
  obtain ⟨hne, hkeep⟩ := h w hw
  refine ⟨by simpa using hne, ?_⟩
  intro c hc
  obtain ⟨d, hd, rfl⟩ := mem_map.mp hc
  exact (name_char (hkeep d hd)).2.2.1

theorem normalize_words (value : String) :
    ∃ words, Words isLowerOrDigit words ∧ normalizeAuthorityAction value = snakeCase words := by
  unfold normalizeAuthorityAction
  generalize breakWords (strip value).toList = broken
  obtain ⟨words, hwords, post, hpost, hsqueeze, -⟩ := squeeze_words isNameChar broken
  have hstripped : stripUnderscores (squeeze isNameChar false broken) = joined '_' words := by
    rcases squeeze_run isNameChar broken with hrun | hrun
    · rw [hrun, hsqueeze]
      exact stripUnderscores_joined [] post hwords (fun _ h => absurd h not_mem_nil) hpost
    · rw [hrun, hsqueeze]
      exact stripUnderscores_joined ['_'] post hwords
        (fun _ hc => mem_singleton.mp hc) hpost
  refine ⟨_, lowered_words hwords, ?_⟩
  dsimp only
  rw [hstripped, squeeze_lowered hwords]
  rfl

theorem normalize_of_broken (hsep : isNameChar sep = false) (h : Words isNameChar words)
    (hstrip : strip (String.ofList text) = String.ofList text)
    (hbroken : breakWords text = joined sep words) :
    normalizeAuthorityAction (String.ofList text) = snakeCase (words.map (List.map lowerChar)) := by
  have hplain := stripUnderscores_joined [] [] h
    (fun _ h => absurd h not_mem_nil) fun _ h => absurd h not_mem_nil
  rw [nil_append, append_nil] at hplain
  unfold normalizeAuthorityAction
  dsimp only
  rw [hstrip, String.toList_ofList, hbroken, squeeze_joined hsep h, hplain, squeeze_lowered h]
  rfl

theorem map_lower (h : ∀ c ∈ word, isLowerOrDigit c = true) : word.map lowerChar = word := by
  rw [map_congr_left (g := id) fun c hc => (lower_char (h c hc)).2.2.1, map_id]

theorem names_of_lower (h : Words isLowerOrDigit words) : Words isNameChar words :=
  fun w hw => ⟨(h w hw).1, fun c hc => (lower_char ((h w hw).2 c hc)).1⟩

theorem strip_joined (sep : Char) (h : Words isNameChar words) :
    strip (String.ofList (joined sep words)) = String.ofList (joined sep words) := by
  have htrim := trim_joined [] [] sep h (p := isSpace) (fun c hc => (name_char hc).1)
    (fun _ h => absurd h not_mem_nil)
    fun _ h => absurd h not_mem_nil
  rw [nil_append, append_nil] at htrim
  rw [strip_ofList, htrim]

theorem breakWords_plain (h : ∀ c ∈ l.tail, isUpperLetter c = false) : breakWords l = l := by
  induction l using breakWords.induct with
  | case1 => rfl
  | case2 c => rfl
  | case3 c d rest hbreak ih =>
    rw [h d mem_cons_self, Bool.and_false] at hbreak
    cases hbreak
  | case4 c d rest hbreak ih =>
    rw [breakWords, if_neg hbreak, ih fun e he => h e (mem_cons_of_mem d he)]

/-- **Whatever stands between words**, if it is no letter and no digit, their normal form is the
same. -/
theorem normalize_joined (hsep : isNameChar sep = false) (h : Words isLowerOrDigit words) :
    normalizeAuthorityAction (String.ofList (joined sep words)) = snakeCase words := by
  have hnames := names_of_lower h
  have hplain : ∀ c ∈ joined sep words, isUpperLetter c = false := by
    have hsepPlain : isUpperLetter sep = false := by
      exact (Bool.or_eq_false_iff.mp hsep).2
    have hlower : ∀ w ∈ words, ∀ c ∈ w, isUpperLetter c = false :=
      fun w hw c hc => (lower_char ((h w hw).2 c hc)).2.1
    clear h hnames
    induction words with
    | nil => exact fun c hc => absurd hc not_mem_nil
    | cons w rest ih =>
      intro c hc
      by_cases hne : rest = []
      · rw [hne] at hc
        exact hlower w mem_cons_self c hc
      · rw [joined_cons hne] at hc
        rcases mem_append.mp hc with hc | hc
        · exact hlower w mem_cons_self c hc
        · rcases mem_cons.mp hc with rfl | hc
          · exact hsepPlain
          · exact ih (fun v hv => hlower v (mem_cons_of_mem w hv)) c hc
  have hlowered : words.map (List.map lowerChar) = words :=
    (map_congr_left fun w hw => map_lower (h w hw).2).trans (map_id _)
  rw [normalize_of_broken hsep hnames (strip_joined sep hnames)
    (breakWords_plain fun c hc => hplain c (mem_of_mem_tail hc)), hlowered]

/-! ## Capital letters -/

def capitalized : List Char → List Char
  | [] => []
  | c :: rest => c.toUpper :: rest

def camelCase : List (List Char) → String
  | [] => ""
  | word :: rest => String.ofList (word ++ rest.flatMap capitalized)

def pascalCase (words : List (List Char)) : String := String.ofList (words.flatMap capitalized)

def acronymCase : List (List Char) → String
  | [] => ""
  | word :: rest => String.ofList (word.map Char.toUpper ++ rest.flatMap capitalized)

/-- Capital letters tell words apart that start with a letter, and of which only the last may have
but one. -/
def ReadApart : List (List Char) → Prop
  | [] => True
  | word :: rest => (∃ c ∈ word.head?, isUpperLetter c.toUpper = true) ∧
      (rest ≠ [] → 1 < word.length) ∧ ReadApart rest

theorem breakWords_append (hu : u ≠ []) (htail : ∀ c ∈ u.tail, isUpperLetter c = false)
    (hlast : ∀ c ∈ u.getLast?, isLowerOrDigit c = true) (hd : isUpperLetter d = true) :
    breakWords (u ++ d :: v) = u ++ '_' :: breakWords (d :: v) := by
  induction u with
  | nil => exact absurd rfl hu
  | cons c rest ih =>
    cases rest with
    | nil =>
      show breakWords (c :: d :: v) = c :: '_' :: breakWords (d :: v)
      rw [breakWords, hlast c rfl, hd]
      rfl
    | cons e rest =>
      show breakWords (c :: e :: (rest ++ d :: v)) = c :: ((e :: rest) ++ '_' :: breakWords (d :: v))
      rw [breakWords, htail e mem_cons_self, Bool.and_false, if_neg Bool.false_ne_true]
      exact congrArg _ (ih (cons_ne_nil _ _)
        (fun c' hc' => htail c' (mem_cons_of_mem e hc')) fun c' hc' => hlast c' hc')

theorem capitalized_word (h : word ≠ [] ∧ ∀ c ∈ word, isLowerOrDigit c = true) :
    (capitalized word ≠ [] ∧ ∀ c ∈ capitalized word, isNameChar c = true) ∧
      (capitalized word).map lowerChar = word ∧
      (∀ c ∈ (capitalized word).tail, isUpperLetter c = false) ∧
      (1 < word.length → ∀ c ∈ (capitalized word).getLast?, isLowerOrDigit c = true) := by
  obtain ⟨c, rest, rfl⟩ := exists_cons_of_ne_nil h.1
  obtain ⟨hc, hrest⟩ := forall_mem_cons.mp h.2
  refine ⟨⟨cons_ne_nil _ _, forall_mem_cons.mpr ⟨(lower_char hc).2.2.2.2,
    fun d hd => (lower_char (hrest d hd)).1⟩⟩, ?_, fun d hd => (lower_char (hrest d hd)).2.1, ?_⟩
  · show lowerChar c.toUpper :: rest.map lowerChar = _
    rw [(lower_char hc).2.2.2.1, map_lower hrest]
  · intro hlength d hd
    cases rest with
    | nil => exact absurd hlength (lt_irrefl _)
    | cons e rest => exact hrest d (List.mem_of_mem_getLast? hd)

theorem breakWords_capitalized (hu : u ≠ []) (htail : ∀ c ∈ u.tail, isUpperLetter c = false)
    (h : Words isLowerOrDigit words)
    (hlast : words ≠ [] → ∀ c ∈ u.getLast?, isLowerOrDigit c = true) (hapart : ReadApart words) :
    breakWords (u ++ words.flatMap capitalized) = joined '_' (u :: words.map capitalized) := by
  induction words generalizing u with
  | nil =>
    show breakWords (u ++ []) = u
    rw [append_nil, breakWords_plain htail]
  | cons w rest ih =>
    obtain ⟨⟨c, hc, hupper⟩, hlong, hrest⟩ := hapart
    have hw := h w mem_cons_self
    obtain ⟨-, -, hwtail, hwlast⟩ := capitalized_word hw
    obtain ⟨d, tail, rfl⟩ := exists_cons_of_ne_nil hw.1
    cases hc
    have hnext := ih (u := capitalized (c :: tail)) (cons_ne_nil _ _) hwtail
      (fun v hv => h v (mem_cons_of_mem _ hv)) (fun hne => hwlast (hlong hne)) hrest
    have hbreak := breakWords_append (v := tail ++ rest.flatMap capitalized) hu htail
      (hlast (cons_ne_nil _ _)) hupper
    rw [flatMap_cons, map_cons, joined_cons (cons_ne_nil _ _), ← hnext]
    exact hbreak

/-- The normal form of a text of cased words. -/
theorem normalize_capitalized (hw : w ≠ [] ∧ ∀ c ∈ w, isLowerOrDigit c = true)
    (hu : u = w ∨ u = capitalized w ∧ (words ≠ [] → 1 < w.length))
    (h : Words isLowerOrDigit words) (hapart : ReadApart words) :
    normalizeAuthorityAction (String.ofList (u ++ words.flatMap capitalized))
      = snakeCase (w :: words) := by
  obtain ⟨hname, hlower, htail, hlast⟩ := capitalized_word hw
  have hfirst : (u ≠ [] ∧ ∀ c ∈ u, isNameChar c = true) ∧ u.map lowerChar = w ∧
      (∀ c ∈ u.tail, isUpperLetter c = false) ∧
      (words ≠ [] → ∀ c ∈ u.getLast?, isLowerOrDigit c = true) := by
    rcases hu with rfl | ⟨rfl, hlong⟩
    · exact ⟨⟨hw.1, fun c hc => (lower_char (hw.2 c hc)).1⟩, map_lower hw.2,
        fun c hc => (lower_char (hw.2 c (mem_of_mem_tail hc))).2.1,
        fun _ c hc => hw.2 c (List.mem_of_mem_getLast? hc)⟩
    · exact ⟨hname, hlower, htail, fun hne => hlast (hlong hne)⟩
  obtain ⟨hunames, hulower, hutail, hulast⟩ := hfirst
  have hcased : Words isNameChar (u :: words.map capitalized) := by
    intro v hv
    rcases mem_cons.mp hv with rfl | hv
    · exact hunames
    · obtain ⟨v', hv', rfl⟩ := mem_map.mp hv
      exact (capitalized_word (h v' hv')).1
  have htext : Words isNameChar [u ++ words.flatMap capitalized] := by
    intro v hv
    rw [mem_singleton.mp hv]
    refine ⟨by simp [hunames.1], ?_⟩
    intro c hc
    rcases mem_append.mp hc with hc | hc
    · exact hunames.2 c hc
    · obtain ⟨v', hv', hc⟩ := mem_flatMap.mp hc
      exact (capitalized_word (h v' hv')).1.2 c hc
  have hmap : (words.map capitalized).map (List.map lowerChar) = words := by
    rw [map_map]
    exact (map_congr_left (g := id) fun v hv => (capitalized_word (h v hv)).2.1).trans
      (map_id _)
  have hnormal := normalize_of_broken (by decide) hcased
    (strip_joined '_' htext) (breakWords_capitalized hunames.1 hutail h hulast hapart)
  rwa [map_cons, hulower, hmap] at hnormal

end AdvisorAI
