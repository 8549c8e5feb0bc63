import AdvisorAI.Collectors.DepthRecovery

/-!
# Replays and the digest of a book

Two recoveries are compared by the digests of their books. The digest is made of
texts: the last update id, and for every level the spelling its price was opened
with and the spelling of its last size. `json_eq_iff` says so, and so equal digests
mean numerically equal books, and books in the same spellings have equal digests.
-/

namespace AdvisorAI

open Lib Json Sequenced List Option

/-! ## The text of a book -/

theorem levelText_valueText : ValueText DepthBook.levelText := by
  refine (arrayText_valueText quoted_valueText).comp ?_
  intro a b h
  obtain ⟨hprice, hquantity⟩ := List.cons.inj h
  obtain ⟨hquantity, -⟩ := List.cons.inj hquantity
  obtain ⟨ap, aq, _, _⟩ := a
  obtain ⟨bp, bq, _, _⟩ := b
  obtain rfl := Decimal.text_injective hprice
  obtain rfl := Decimal.text_injective hquantity
  rfl

variable {a b book : DepthBook}

theorem json_inj (h : a.json = b.json) :
    DepthBook.sortedLevels a.asks = DepthBook.sortedLevels b.asks ∧
    DepthBook.sortedLevels a.bids = DepthBook.sortedLevels b.bids ∧
    a.lastUpdateId = b.lastUpdateId := by
  have hlevels := arrayText_valueText levelText_valueText
  have hmember := (List.cons.inj h).2
  have hasks := (List.cons.inj (append_cancel_left hmember)).2
  obtain ⟨hasks, hrest⟩ := hlevels.delimited _ _ _ _ (memberText_endsNumber _ _ _)
    (memberText_endsNumber _ _ _) hasks
  obtain ⟨hbids, hrest⟩ := hlevels.delimited _ _ _ _ (memberText_endsNumber _ _ _)
    (memberText_endsNumber _ _ _) (memberText_cancel hrest)
  have hend : EndsNumber ['}'] := endsNumber_cons (by decide)
  obtain ⟨hid, -⟩ := integerText_valueText.delimited _ _ _ _ hend hend (memberText_cancel hrest)
  exact ⟨hasks, hbids, hid⟩

/-! ## The levels of a side -/

theorem mem_sortedLevels {side : BookSide} {level : PriceLevel} :
    level ∈ DepthBook.sortedLevels side ↔ side.levels.get level.price.value = some level := by
  unfold DepthBook.sortedLevels
  rw [List.mem_map]
  constructor
  · rintro ⟨⟨v, found⟩, hmem, rfl⟩
    rw [mem_insertionSort, Dict.mem_entries_iff] at hmem
    rw [side.keyed v found hmem]
    exact hmem
  · intro h
    refine ⟨(level.price.value, level), ?_, rfl⟩
    rw [mem_insertionSort, Dict.mem_entries_iff]
    exact h

theorem sortedLevels_eq_iff {a b : BookSide} :
    DepthBook.sortedLevels a = DepthBook.sortedLevels b ↔
      ∀ v, a.levels.get v = b.levels.get v := by
  constructor
  · intro h
    have hsub : ∀ {a b : BookSide}, DepthBook.sortedLevels a = DepthBook.sortedLevels b →
        ∀ v level, a.levels.get v = some level → b.levels.get v = some level := by
      intro a b h v level hget
      have hv := a.keyed v level hget
      rw [← hv] at hget ⊢
      exact mem_sortedLevels.mp (h ▸ mem_sortedLevels.mpr hget)
    intro v
    exact Option.ext fun level => ⟨hsub h v level, hsub h.symm v level⟩
  · intro h
    have hmem : ∀ e, e ∈ a.levels.entries ↔ e ∈ b.levels.entries := by
      rintro ⟨v, level⟩
      rw [Dict.mem_entries_iff, Dict.mem_entries_iff, h v]
    have hperm : a.levels.entries.Perm b.levels.entries :=
      (perm_ext_iff_of_nodup (List.Nodup.of_map _ a.levels.nodup)
        (List.Nodup.of_map _ b.levels.nodup)).mpr hmem
    let r : ℚ × PriceLevel → ℚ × PriceLevel → Prop := fun x y => x.1 ≤ y.1
    have htotal : Std.Total r := ⟨fun x y => le_total x.1 y.1⟩
    have htrans : IsTrans (ℚ × PriceLevel) r := ⟨fun _ _ _ => le_trans⟩
    refine congrArg (List.map Prod.snd) (List.Perm.eq_of_pairwise ?_
      (pairwise_insertionSort r _) (pairwise_insertionSort r _) ?_)
    · -- one price, one level
      rintro ⟨v, x⟩ ⟨w, y⟩ hx hy hvw hwv
      obtain rfl : v = w := le_antisymm hvw hwv
      rw [mem_insertionSort, Dict.mem_entries_iff] at hx hy
      rw [h v, hy] at hx
      rw [Option.some.inj hx]
    · exact ((perm_insertionSort r _).trans hperm).trans (perm_insertionSort r _).symm

/-- **Two books have one text** exactly when they end at one update id and have the
same levels in the same spellings. -/
theorem json_eq_iff : a.json = b.json ↔
    a.lastUpdateId = b.lastUpdateId ∧ (∀ v, a.bids.levels.get v = b.bids.levels.get v) ∧
      ∀ v, a.asks.levels.get v = b.asks.levels.get v := by
  constructor
  · intro h
    obtain ⟨hasks, hbids, hid⟩ := json_inj h
    exact ⟨hid, sortedLevels_eq_iff.mp hbids, sortedLevels_eq_iff.mp hasks⟩
  · rintro ⟨hid, hbids, hasks⟩
    unfold DepthBook.json
    rw [hid, sortedLevels_eq_iff.mpr hbids, sortedLevels_eq_iff.mpr hasks]

/-! ## Replays -/

def BookSide.size (side : BookSide) (v : ℚ) : Option ℚ :=
  (side.levels.get v).map fun level => level.quantity.value

def DepthBook.NumericallyEqual (a b : DepthBook) : Prop :=
  (∀ v, a.bids.size v = b.bids.size v) ∧ ∀ v, a.asks.size v = b.asks.size v

/-- Every level is spelled the same: its price and its size. -/
def DepthBook.SameSpellings (a b : DepthBook) : Prop :=
  (∀ v, a.bids.levels.get v = b.bids.levels.get v) ∧
    ∀ v, a.asks.levels.get v = b.asks.levels.get v

theorem replayEquivalent_iff {δ : Type} [DecidableEq δ] {live replay : SequenceRecoveryResult δ} :
    replayEquivalent live replay = true ↔ live.state = .pass ∧ replay.state = .pass ∧
      ∃ d, live.reconstructedBookSha256 = some d ∧ replay.reconstructedBookSha256 = some d := by
  unfold replayEquivalent
  simp only [Bool.and_eq_true, decide_eq_true_eq]
  constructor
  · rintro ⟨⟨⟨hlive, hreplay⟩, hsome⟩, hsame⟩
    obtain ⟨d, hd⟩ := isSome_iff_exists.mp hsome
    exact ⟨hlive, hreplay, d, hd, hsame.symm.trans hd⟩
  · rintro ⟨hlive, hreplay, d, hd, hd'⟩
    exact ⟨⟨⟨hlive, hreplay⟩, by rw [hd]; rfl⟩, hd.trans hd'.symm⟩

/-- **What equivalent replays have in common.** If a replay counts as equivalent, both
recoveries passed and their books are numerically equal, level by level, at one update
id; and two books at one update id with every level in the same spelling are
equivalent. -/
theorem replay_equivalent_books {δ : Type} [DecidableEq δ] (o : TextOutside)
    {sha256 : List Char → δ} (hsha : Function.Injective sha256) {symbol symbol' : String}
    {snapshot snapshot' : DepthSnapshot} {updates updates' : List DepthUpdate}
    {reacquired reacquired' : Bool} {live replay : SequenceRecoveryResult δ}
    (hlive : recoverBinanceDepth o symbol sha256 snapshot updates reacquired = .ok live)
    (hreplay : recoverBinanceDepth o symbol' sha256 snapshot' updates' reacquired'
      = .ok replay) :
    (replayEquivalent live replay = true →
      live.state = .pass ∧ replay.state = .pass ∧
      ∃ a b, Reconstructs o symbol snapshot updates a ∧
        Reconstructs o symbol' snapshot' updates' b ∧
        a.lastUpdateId = b.lastUpdateId ∧ a.NumericallyEqual b) ∧
    ∀ a b, Reconstructs o symbol snapshot updates a →
      Reconstructs o symbol' snapshot' updates' b →
      a.lastUpdateId = b.lastUpdateId → a.SameSpellings b →
      replayEquivalent live replay = true := by
  rcases recover_spec hlive with ⟨a, ha, hpass, hdigest⟩ | ⟨hnone, hfailed, -⟩
  · rcases recover_spec hreplay with ⟨b, hb, hpass', hdigest'⟩ | ⟨hnone', hfailed', -⟩
    · constructor
      · intro hequivalent
        obtain ⟨-, -, d, hd, hd'⟩ := replayEquivalent_iff.mp hequivalent
        rw [hdigest] at hd
        rw [hdigest'] at hd'
        have hjson : a.json = b.json :=
          hsha ((Option.some.inj hd).trans (Option.some.inj hd').symm)
        obtain ⟨hid, hbids, hasks⟩ := json_eq_iff.mp hjson
        refine ⟨hpass, hpass', a, b, ha, hb, hid, ?_, ?_⟩
        · intro v
          unfold BookSide.size
          rw [hbids v]
        · intro v
          unfold BookSide.size
          rw [hasks v]
      · intro a' b' ha' hb' hid hsame
        rw [ha'.unique ha, hb'.unique hb] at hid hsame
        refine replayEquivalent_iff.mpr ⟨hpass, hpass', a.digest sha256, hdigest, ?_⟩
        rw [hdigest']
        unfold DepthBook.digest
        rw [json_eq_iff.mpr ⟨hid, hsame⟩]
    · constructor
      · intro hequivalent
        rw [(replayEquivalent_iff.mp hequivalent).2.1] at hfailed'
        cases hfailed'
      · intro a' b' _ hb'
        exact absurd hb' (hnone' b')
  · constructor
    · intro hequivalent
      rw [(replayEquivalent_iff.mp hequivalent).1] at hfailed
      cases hfailed
    · intro a' b' ha'
      exact absurd ha' (hnone a')

/-- Two replays of one history count as equivalent, and so their books are numerically
equal. -/
theorem replay_equivalent_books_paper : ∃ a b,
    Reconstructs plainText "BTCUSDT" depthSnapshot [freshUpdate] a ∧
    Reconstructs plainText "BTCUSDT" depthSnapshot [staleUpdate, freshUpdate] b ∧
    a.NumericallyEqual b := by
  obtain ⟨live, hlive, -⟩ := ok_of_toOption_any (x := recoverPaper [freshUpdate])
    (p := fun _ => true) (by decide +kernel)
  obtain ⟨replay, hreplay, hequivalent⟩ := ok_of_toOption_any
    (x := recoverPaper [staleUpdate, freshUpdate])
    (p := fun r => (recoverPaper [freshUpdate]).toOption.any fun live =>
      replayEquivalent live r) (by decide +kernel)
  rw [hlive] at hequivalent
  obtain ⟨-, -, a, b, ha, hb, -, heq⟩ :=
    (replay_equivalent_books plainText Function.injective_id hlive hreplay).1 hequivalent
  exact ⟨a, b, ha, hb, heq⟩

def paperBook (updates : List DepthUpdate) : Option DepthBook :=
  (DepthBook.fromSnapshot plainText depthSnapshot).toOption.bind fun start =>
    (((depthFeed plainText "BTCUSDT").run (start.lastUpdateId, start) updates).toOption.filter
      fun _ => !((depthFeed plainText "BTCUSDT").fresh start.lastUpdateId updates).isEmpty).map
      Prod.snd

variable {updates updates' : List DepthUpdate}

theorem reconstructs_of_paperBook (h : paperBook updates = some book) :
    Reconstructs plainText "BTCUSDT" depthSnapshot updates book := by
  unfold paperBook at h
  rw [bind_eq_some_iff] at h
  obtain ⟨start, hstart, h⟩ := h
  rw [map_eq_some_iff] at h
  obtain ⟨⟨n, found⟩, hrun, rfl⟩ := h
  rw [filter_eq_some_iff] at hrun
  refine ⟨start, n, ok_of_toOption hstart, ok_of_toOption hrun.1, ?_⟩
  intro hfresh
  rw [hfresh] at hrun
  cases hrun.2

def BookSide.numbers (side : BookSide) : List (ℚ × ℚ) :=
  side.levels.entries.map fun e => (e.1, e.2.quantity.value)

theorem BookSide.size_eq_of_numbers {a b : BookSide} (h : a.numbers = b.numbers) (v : ℚ) :
    a.size v = b.size v := by
  have hsize : ∀ l : List (ℚ × PriceLevel), (lookupEntry v l).map (fun level => level.quantity.value)
      = lookupEntry v (l.map fun e => (e.1, e.2.quantity.value)) := by
    intro l
    induction l with
    | nil => rfl
    | cons e rest ih =>
      simp only [lookupEntry, map_cons]
      split
      · rfl
      · exact ih
  calc a.size v = lookupEntry v a.numbers := hsize _
    _ = lookupEntry v b.numbers := by rw [h]
    _ = b.size v := (hsize _).symm

def toldApart (updates updates' : List DepthUpdate) : Bool :=
  (paperBook updates).any (fun a => (paperBook updates').any fun b =>
    decide (a.bids.numbers = b.bids.numbers ∧ a.asks.numbers = b.asks.numbers)) &&
  (recoverPaper updates).toOption.any (fun live => (recoverPaper updates').toOption.any
    fun replay => !replayEquivalent live replay)

theorem toldApart_spec (h : toldApart updates updates' = true) :
    ∃ live replay a b, recoverPaper updates = .ok live ∧ recoverPaper updates' = .ok replay ∧
      Reconstructs plainText "BTCUSDT" depthSnapshot updates a ∧
      Reconstructs plainText "BTCUSDT" depthSnapshot updates' b ∧
      a.NumericallyEqual b ∧ replayEquivalent live replay = false := by
  unfold toldApart at h
  rw [Bool.and_eq_true] at h
  obtain ⟨hbooks, hresults⟩ := h
  rw [Option.any_eq_true] at hbooks
  obtain ⟨a, ha, hbooks⟩ := hbooks
  rw [Option.any_eq_true] at hbooks
  obtain ⟨b, hb, hbooks⟩ := hbooks
  obtain ⟨live, hlive, hresults⟩ := ok_of_toOption_any hresults
  obtain ⟨replay, hreplay, hresults⟩ := ok_of_toOption_any hresults
  obtain ⟨hbids, hasks⟩ := of_decide_eq_true hbooks
  refine ⟨live, replay, a, b, hlive, hreplay, reconstructs_of_paperBook ha,
    reconstructs_of_paperBook hb, ⟨BookSide.size_eq_of_numbers hbids,
      BookSide.size_eq_of_numbers hasks⟩, ?_⟩
  rwa [Bool.not_eq_true'] at hresults

def respelledUpdate : DepthUpdate := paperUpdate 101 101 (some [some ("100", "2.0")]) (some [])

def emptyUpdate : DepthUpdate := paperUpdate 102 102 (some []) (some [])

/-- **Numerically equal books that are no equivalent replays.** Of the first pair the
size of the bid is spelled in two ways, of the second the levels are the same and the
update ids are not. -/
theorem equal_books_not_equivalent :
    (∃ live replay a b, recoverPaper [freshUpdate] = .ok live ∧
      recoverPaper [respelledUpdate] = .ok replay ∧
      Reconstructs plainText "BTCUSDT" depthSnapshot [freshUpdate] a ∧
      Reconstructs plainText "BTCUSDT" depthSnapshot [respelledUpdate] b ∧
      a.NumericallyEqual b ∧ replayEquivalent live replay = false) ∧
    (∃ live replay a b, recoverPaper [freshUpdate] = .ok live ∧
      recoverPaper [freshUpdate, emptyUpdate] = .ok replay ∧
      Reconstructs plainText "BTCUSDT" depthSnapshot [freshUpdate] a ∧
      Reconstructs plainText "BTCUSDT" depthSnapshot [freshUpdate, emptyUpdate] b ∧
      a.NumericallyEqual b ∧ replayEquivalent live replay = false) := by
  exact ⟨toldApart_spec (by decide +kernel), toldApart_spec (by decide +kernel)⟩

end AdvisorAI
