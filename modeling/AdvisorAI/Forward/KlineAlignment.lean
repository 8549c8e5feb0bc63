import AdvisorAI.Forward.KlineParser

/-!
# The bars of a response

What the parser accepts is said of the call alone (`KlineCall.Accepts`), and what it then returns
are the bars of the closed rows, in their order (`parseBinanceKlines_ok`). All of them end at a
multiple of five minutes if and only if each closed row opens at a whole second
(`klines_aligned_iff`).
-/

namespace AdvisorAI.Cadence

open Lib Lib.Json List

section Bars

variable [DecimalContext] {outside : KlineOutside} {call : KlineCall} {collectedAt : Timestamp}
  {symbol : V3CoreSymbol}

/-! ## One bar -/

variable {kline : Kline}

omit [DecimalContext] in
theorem klineProvenance_valid {snapshot rawHash normalizedHash : Digest}
    (hend : InRange kline.intervalEnd) (hclose : InRange kline.closeTime)
    (hcollected : InRange collectedAt) (hclosed : kline.intervalEnd ≤ collectedAt) :
    (klineProvenance call collectedAt kline snapshot rawHash normalizedHash).Valid ↔
      Aligned 300 kline.intervalEnd := by
  refine ⟨fun h => h.2.1, fun h => ⟨?_, h, le_refl _, rfl, hclosed, rfl, rfl⟩⟩
  intro t ht
  have htimes : t ∈ [kline.intervalEnd, kline.intervalEnd, collectedAt, kline.closeTime] := ht
  simp only [mem_cons, not_mem_nil, or_false] at htimes
  rcases htimes with rfl | rfl | rfl | rfl
  · exact hend
  · exact hend
  · exact hcollected
  · exact hclose

theorem klineFields_valid {values : KlineValues} {snapshot : Digest}
    {provenance : V3CoreBarProvenance} (hsnapshot : provenance.sourceSnapshotHash = snapshot)
    (hprices : ∀ price ∈ [values.open', values.high, values.low, values.close], 0 < price.value)
    (hvolume : 0 ≤ values.volume.value) :
    ((klineFields symbol values snapshot provenance).MarketValid ∧
        (klineFields symbol values snapshot provenance).IdentityValid) ↔
      max values.open'.value values.close.value ≤ values.high.value ∧
        values.low.value ≤ min values.open'.value values.close.value := by
  have hidentity : (klineFields symbol values snapshot provenance).IdentityValid :=
    ⟨marketSource_reviewed.1, rfl, hsnapshot.symm,
      ⟨fun _ => marketSource_reviewed.2.1, fun hne => absurd rfl hne⟩, marketSource_reviewed.2.2⟩
  rw [and_iff_left hidentity, ← value_max, ← value_min, ← not_lt_decimal, ← not_lt_decimal]
  refine ⟨fun h => h.2.2, fun h => ⟨?_, nonNegative_decimal.mpr hvolume, h⟩⟩
  intro price hprice
  exact positive_decimal.mpr (hprices price hprice)

/-- **A closed row has a bar** when it is admissible. -/
theorem klineBar_returns (hend : InRange kline.intervalEnd) (hclose : InRange kline.closeTime)
    (hcollected : InRange collectedAt) (hclosed : kline.intervalEnd ≤ collectedAt)
    (h : kline.Admissible outside call) :
    ∃ bar, klineBar outside call collectedAt symbol kline = .ok bar := by
  obtain ⟨⟨values, hvalues, hbounds⟩, ⟨text, htext⟩, ⟨snapshot, hsnapshot⟩, haligned⟩ := h
  obtain ⟨hprices, hvolume⟩ := klineValues_ok hvalues
  refine ⟨_, bind_ok_iff.mpr ⟨values, hvalues, bind_ok_iff.mpr ⟨text, htext, bind_ok_iff.mpr
    ⟨snapshot, orInvalid_ok.mpr hsnapshot, bind_ok_iff.mpr ⟨_, orInvalid_ok.mpr (dif_pos ?_),
      orInvalid_ok.mpr (dif_pos ?_)⟩⟩⟩⟩⟩
  · exact (klineProvenance_valid hend hclose hcollected hclosed).mpr haligned
  · exact (klineFields_valid rfl hprices hvolume).mpr hbounds

theorem klineBar_ok {bar : V3CoreBar Decimal}
    (h : klineBar outside call collectedAt symbol kline = .ok bar) :
    kline.Admissible outside call ∧ kline.BarOf outside call collectedAt symbol bar := by
  obtain ⟨values, hvalues, h⟩ := bind_ok_iff.mp h
  obtain ⟨text, htext, h⟩ := bind_ok_iff.mp h
  obtain ⟨snapshot, hsnapshot, h⟩ := bind_ok_iff.mp h
  obtain ⟨provenance, hprovenance, h⟩ := bind_ok_iff.mp h
  replace hsnapshot := orInvalid_ok.mp hsnapshot
  replace hprovenance := orInvalid_ok.mp hprovenance
  replace h := orInvalid_ok.mp h
  obtain ⟨hvalid, hprovenance⟩ := Option.dite_none_right_eq_some.mp hprovenance
  obtain ⟨hfields, hbar⟩ := Option.dite_none_right_eq_some.mp h
  cases hprovenance
  cases hbar
  obtain ⟨hprices, hvolume⟩ := klineValues_ok hvalues
  exact ⟨⟨⟨values, hvalues, (klineFields_valid rfl hprices hvolume).mp hfields⟩, ⟨text, htext⟩,
      ⟨snapshot, hsnapshot⟩, hvalid.2.1⟩,
    ⟨rfl, rfl, rfl, hvalues, snapshot, hsnapshot, rfl, rfl⟩⟩

/-! ## The loop -/

/-- The intervals of rows, each new among the others and those that were seen. -/
def NewIntervals (seen : List Timestamp) (klines : List Kline) : Prop :=
  (klines.map Kline.intervalEnd).Nodup ∧ ∀ kline ∈ klines, kline.intervalEnd ∉ seen

variable {klines : List Kline}

omit [DecimalContext] in
theorem newIntervals_cons {seen : List Timestamp} :
    NewIntervals seen (kline :: klines) ↔
      kline.intervalEnd ∉ seen ∧ NewIntervals (kline.intervalEnd :: seen) klines := by
  unfold NewIntervals
  rw [map_cons, nodup_cons, forall_mem_cons]
  have hmem : kline.intervalEnd ∉ klines.map Kline.intervalEnd ↔
      ∀ other ∈ klines, other.intervalEnd ≠ kline.intervalEnd := by
    simp only [mem_map, not_exists, not_and, ne_eq]
  rw [hmem]
  simp only [mem_cons, not_or]
  constructor
  · rintro ⟨⟨hne, hnodup⟩, hnew, hrest⟩
    exact ⟨hnew, hnodup, fun other hother => ⟨hne other hother, hrest other hother⟩⟩
  · rintro ⟨hnew, hnodup, hrest⟩
    exact ⟨⟨fun other hother => (hrest other hother).1, hnodup⟩, hnew,
      fun other hother => (hrest other hother).2⟩

/-- A turn of the loop: the row is read, its interval is new, and it has a bar if it is closed. -/
theorem parseRow_ok {row : Tree} {parsed next : Parsed} :
    parseRow outside call collectedAt symbol parsed row = .ok next ↔
      ∃ kline made, readKline row = .ok kline ∧ kline.intervalEnd ∉ parsed.seenIntervals ∧
        (closedKlines collectedAt [kline]).mapM (klineBar outside call collectedAt symbol)
          = .ok made ∧ next = ⟨parsed.bars ++ made, kline.intervalEnd :: parsed.seenIntervals⟩ := by
  have hturn : ∀ kline, admitKline outside call collectedAt symbol parsed kline = .ok next ↔
      ∃ made, (closedKlines collectedAt [kline]).mapM (klineBar outside call collectedAt symbol)
        = .ok made ∧ next = ⟨parsed.bars ++ made, kline.intervalEnd :: parsed.seenIntervals⟩ := by
    intro kline
    unfold admitKline closedKlines
    by_cases hopen : collectedAt < kline.intervalEnd
    · rw [if_pos hopen, filter_cons_of_neg (by simpa using hopen), filter_nil]
      constructor
      · intro h
        cases h
        exact ⟨[], rfl, by rw [append_nil]⟩
      · rintro ⟨made, hmade, rfl⟩
        obtain rfl : made = [] := (Except.ok.inj hmade).symm
        rw [append_nil]
    · rw [if_neg hopen, filter_cons_of_pos (by simpa using hopen), filter_nil]
      constructor
      · intro h
        obtain ⟨bar, hbar, h⟩ := bind_ok_iff.mp h
        cases h
        exact ⟨[bar], mapM_ok_iff.mpr (.cons hbar .nil), rfl⟩
      · rintro ⟨made, hmade, rfl⟩
        obtain ⟨bar, rest, hbar, hrest, rfl⟩ :=
          forall₂_cons_left_iff.mp (mapM_ok_iff.mp hmade)
        cases hrest
        exact bind_ok_iff.mpr ⟨bar, hbar, rfl⟩
  unfold parseRow
  rw [bind_ok_iff]
  constructor
  · rintro ⟨kline, hkline, h⟩
    obtain ⟨hnew, h⟩ := require_bind_ok.mp h
    obtain ⟨made, hmade, hnext⟩ := (hturn kline).mp h
    exact ⟨kline, made, hkline, hnew, hmade, hnext⟩
  · rintro ⟨kline, made, hkline, hnew, hmade, hnext⟩
    exact ⟨kline, hkline, require_bind_ok.mpr ⟨hnew, (hturn kline).mpr ⟨made, hmade, hnext⟩⟩⟩

omit [DecimalContext] in
theorem closedKlines_cons (kline : Kline) (klines : List Kline) :
    closedKlines collectedAt (kline :: klines)
      = closedKlines collectedAt [kline] ++ closedKlines collectedAt klines :=
  filter_append [kline] klines

variable {bars : List (V3CoreBar Decimal)}

/-- **What the loop returns**: the bars of the rows that are closed. -/
theorem parseRows_ok {rows : List Tree} (parsed : Parsed) :
    (∃ seen, rows.foldlM (parseRow outside call collectedAt symbol) parsed = .ok ⟨bars, seen⟩) ↔
      ∃ klines made, rows.mapM readKline = .ok klines ∧
        NewIntervals parsed.seenIntervals klines ∧
        (closedKlines collectedAt klines).mapM (klineBar outside call collectedAt symbol)
          = .ok made ∧ bars = parsed.bars ++ made := by
  induction rows generalizing parsed with
  | nil =>
    constructor
    · rintro ⟨seen, h⟩
      cases h
      exact ⟨[], [], rfl, ⟨nodup_nil, fun _ hk => absurd hk not_mem_nil⟩, rfl,
        (append_nil _).symm⟩
    · rintro ⟨klines, made, hread, -, hmade, rfl⟩
      obtain rfl : klines = [] := (Except.ok.inj hread).symm
      obtain rfl : made = [] := (Except.ok.inj hmade).symm
      rw [append_nil]
      exact ⟨parsed.seenIntervals, rfl⟩
  | cons row rows ih =>
    constructor
    · rintro ⟨seen, h⟩
      rw [foldlM_cons] at h
      obtain ⟨next, hrow, h⟩ := bind_ok_iff.mp h
      obtain ⟨kline, first, hkline, hnew, hfirst, rfl⟩ := parseRow_ok.mp hrow
      obtain ⟨klines, made, hread, hfresh, hmade, hbars⟩ := (ih _).mp ⟨seen, h⟩
      refine ⟨kline :: klines, first ++ made, mapM_ok_iff.mpr (.cons hkline (mapM_ok_iff.mp hread)),
        newIntervals_cons.mpr ⟨hnew, hfresh⟩, ?_, by rw [hbars, append_assoc]⟩
      rw [closedKlines_cons, mapM_append]
      exact bind_ok_iff.mpr ⟨first, hfirst, bind_ok_iff.mpr ⟨made, hmade, rfl⟩⟩
    · rintro ⟨all, made, hread, hfresh, hmade, hbars⟩
      obtain ⟨kline, klines, hkline, hrest, rfl⟩ :=
        forall₂_cons_left_iff.mp (mapM_ok_iff.mp hread)
      obtain ⟨hnew, hnewRest⟩ := newIntervals_cons.mp hfresh
      rw [closedKlines_cons, mapM_append] at hmade
      obtain ⟨first, hfirst, hmade⟩ := bind_ok_iff.mp hmade
      obtain ⟨later, hlater, hmade⟩ := bind_ok_iff.mp hmade
      cases hmade
      obtain ⟨seen, hloop⟩ := (ih ⟨parsed.bars ++ first, kline.intervalEnd :: parsed.seenIntervals⟩).mpr
        ⟨klines, later, mapM_ok_iff.mpr hrest, hnewRest, hlater,
          hbars.trans (append_assoc parsed.bars first later).symm⟩
      exact ⟨seen, bind_ok_iff.mpr
        ⟨_, parseRow_ok.mpr ⟨kline, first, hkline, hnew, hfirst, rfl⟩, hloop⟩⟩

/-! ## The response -/

/-- **What the parser returns**: it accepts the call, and the bars are those of the closed rows. -/
theorem parseBinanceKlines_ok :
    parseBinanceKlines outside call = .ok bars ↔
      ∃ collectedAt symbol klines, call.Accepts outside collectedAt symbol klines ∧
        (closedKlines collectedAt klines).mapM (klineBar outside call collectedAt symbol)
          = .ok bars := by
  constructor
  · intro h
    obtain ⟨collectedAt, hcollected, h⟩ := bind_ok_iff.mp h
    obtain ⟨decoded, hdecoded, h⟩ := bind_ok_iff.mp h
    obtain ⟨rows, hrows, h⟩ := bind_ok_iff.mp h
    obtain ⟨symbol, hsymbol, h⟩ := bind_ok_iff.mp h
    obtain ⟨parsed, hparsed, h⟩ := bind_ok_iff.mp h
    cases h
    obtain ⟨klines, made, hread, hnew, hmade, hbars⟩ :=
      (parseRows_ok _).mp ⟨parsed.seenIntervals, hparsed⟩
    rw [nil_append] at hbars
    refine ⟨collectedAt, symbol, klines, ⟨hcollected, ⟨decoded, rows, hdecoded, hrows, hread⟩,
      hsymbol, hnew.1, ?_⟩, hbars ▸ hmade⟩
    intro kline hkline
    obtain ⟨bar, -, hbar⟩ := exists_made_of_mem hmade hkline
    exact (klineBar_ok hbar).1
  · rintro ⟨collectedAt, symbol, klines, h, hmade⟩
    obtain ⟨decoded, rows, hdecoded, hrows, hread⟩ := h.rows
    obtain ⟨seen, hloop⟩ := (parseRows_ok ⟨[], []⟩).mpr ⟨klines, bars, hread,
      ⟨h.distinct, fun _ _ => not_mem_nil⟩, hmade, (nil_append bars).symm⟩
    exact bind_ok_iff.mpr ⟨collectedAt, h.collected, bind_ok_iff.mpr ⟨decoded, hdecoded,
      bind_ok_iff.mpr ⟨rows, hrows, bind_ok_iff.mpr ⟨symbol, h.symbol,
        bind_ok_iff.mpr ⟨_, hloop, rfl⟩⟩⟩⟩⟩

theorem returns_of_accepts (h : call.Accepts outside collectedAt symbol klines) :
    ∃ bars, parseBinanceKlines outside call = .ok bars ∧
      List.Forall₂ (Kline.BarOf outside call collectedAt symbol) (closedKlines collectedAt klines)
        bars := by
  have hcollected : InRange collectedAt := Datetime.aware_valid h.collected
  obtain ⟨decoded, rows, -, -, hread⟩ := h.rows
  have hmade : ∀ kline ∈ closedKlines collectedAt klines,
      ∃ bar, klineBar outside call collectedAt symbol kline = .ok bar := by
    intro kline hkline
    obtain ⟨hmem, hclosed⟩ := mem_filter.mp hkline
    obtain ⟨row, -, hrow⟩ := exists_of_mapM_ok hread hmem
    obtain ⟨hend, hclose, -⟩ := readKline_times hrow
    exact klineBar_returns hend hclose hcollected (of_decide_eq_true hclosed) (h.closed kline hkline)
  obtain ⟨bars, hbars⟩ := mapM_returns hmade
  exact ⟨bars, parseBinanceKlines_ok.mpr ⟨collectedAt, symbol, klines, h, hbars⟩,
    (mapM_ok_iff.mp hbars).imp fun _ _ hbar => (klineBar_ok hbar).2⟩

/-! ## Alignment -/

omit [DecimalContext] in
/-- An interval that is aligned in whole seconds ends at a multiple of five minutes when it opens at
a whole second. -/
theorem aligned_exactly_iff {row : Tree} (hread : readKline row = .ok kline)
    (haligned : Aligned 300 kline.intervalEnd) :
    kline.intervalEnd % 300000000 = 0 ↔ kline.openMilliseconds % 1000 = 0 := by
  obtain ⟨-, -, hnonneg, hmax, hend⟩ := readKline_times hread
  rw [← fromMilliseconds_whole hnonneg hmax]
  have hnear := (abs_lt.mp (fromMilliseconds_near hnonneg hmax).2).1
  unfold Aligned wholeSeconds at haligned
  rw [hend] at haligned ⊢
  rw [Int.tdiv_eq_ediv_of_nonneg (by linarith)] at haligned
  have hmod : ∀ t : ℤ, (t + 300000000) / 1000000 % 300 = 0 →
      ((t + 300000000) % 300000000 = 0 ↔ t % 1000000 = 0) := by omega
  exact hmod _ haligned

variable (outside call)

/-- The bars are those of the rows that were closed when the response was received, in their order
and none twice; each of them ends at a multiple of five minutes and keeps its bounds. -/
structure KlineCall.Admits (bars : List (V3CoreBar Decimal)) : Prop where
  rows : ∃ collectedAt symbol decoded rows klines,
    call.collectedAt.aware "collected_at must include a timezone" = .ok collectedAt ∧
    klineSymbol outside call.symbol = .ok symbol ∧
    loadPayload outside call.payload = .ok decoded ∧ rowsOf decoded = .ok rows ∧
    rows.mapM readKline = .ok klines ∧
    List.Forall₂ (Kline.BarOf outside call collectedAt symbol) (closedKlines collectedAt klines) bars
  distinct : (bars.map V3CoreBar.intervalEnd).Nodup
  aligned : ∀ bar ∈ bars, bar.intervalEnd % 300000000 = 0
  bounds : ∀ bar ∈ bars, max bar.open'.value bar.close.value ≤ bar.high.value ∧
    bar.low.value ≤ min bar.open'.value bar.close.value

variable {outside call}

omit [DecimalContext] in
theorem read_of_accepts (h : call.Accepts outside collectedAt symbol klines)
    (hkline : kline ∈ closedKlines collectedAt klines) : ∃ row, readKline row = .ok kline := by
  obtain ⟨decoded, rows, -, -, hread⟩ := h.rows
  obtain ⟨row, -, hrow⟩ := exists_of_mapM_ok hread (mem_filter.mp hkline).1
  exact ⟨row, hrow⟩

theorem intervalEnds_eq
    (h : List.Forall₂ (Kline.BarOf outside call collectedAt symbol) klines bars) :
    bars.map V3CoreBar.intervalEnd = klines.map Kline.intervalEnd := by
  induction h with
  | nil => rfl
  | cons hbar _ ih =>
    rw [map_cons, map_cons, ih]
    congr 1
    exact congrArg Prod.snd hbar.key

/-- **The bars of a response are what they should be** if and only if, where the parser accepts it,
every row that has ended opens at a whole second. -/
theorem klines_aligned_iff :
    (∀ bars, parseBinanceKlines outside call = .ok bars → call.Admits outside bars) ↔
      ∀ collectedAt symbol klines, call.Accepts outside collectedAt symbol klines →
        ∀ kline ∈ closedKlines collectedAt klines, kline.openMilliseconds % 1000 = 0 := by
  constructor
  · intro h collectedAt symbol klines haccepts kline hkline
    obtain ⟨bars, hparse, hbars⟩ := returns_of_accepts haccepts
    obtain ⟨row, hrow⟩ := read_of_accepts haccepts hkline
    refine (aligned_exactly_iff hrow (haccepts.closed kline hkline).aligned).mp ?_
    have hmem : kline.intervalEnd ∈ bars.map V3CoreBar.intervalEnd := by
      rw [intervalEnds_eq hbars]
      exact mem_map_of_mem hkline
    obtain ⟨bar, hbar, hsame⟩ := mem_map.mp hmem
    rw [← hsame]
    exact (h bars hparse).aligned bar hbar
  · intro h bars hparse
    obtain ⟨collectedAt, symbol, klines, haccepts, hmade⟩ := parseBinanceKlines_ok.mp hparse
    obtain ⟨decoded, rows, hdecoded, hrows, hread⟩ := haccepts.rows
    have hbars : List.Forall₂ (Kline.BarOf outside call collectedAt symbol)
        (closedKlines collectedAt klines) bars :=
      (mapM_ok_iff.mp hmade).imp fun _ _ hbar => (klineBar_ok hbar).2
    have hends := intervalEnds_eq hbars
    refine ⟨⟨collectedAt, symbol, decoded, rows, klines, haccepts.collected, haccepts.symbol,
      hdecoded, hrows, hread, hbars⟩, ?_, ?_, fun bar _ => bar.bounds⟩
    · rw [hends]
      exact haccepts.distinct.sublist (filter_sublist.map _)
    · intro bar hbar
      have hmem : bar.intervalEnd ∈ (closedKlines collectedAt klines).map Kline.intervalEnd := by
        rw [← hends]
        exact mem_map_of_mem hbar
      obtain ⟨kline, hkline, hsame⟩ := mem_map.mp hmem
      obtain ⟨row, hrow⟩ := read_of_accepts haccepts hkline
      rw [← hsame]
      exact (aligned_exactly_iff hrow (haccepts.closed kline hkline).aligned).mpr
        (h collectedAt symbol klines haccepts kline hkline)

end Bars

/-! ## A row that opens within a second -/

def halfSecondRow : KlineRow where
  items := [.number (integerToken 500), .text "1", .text "1", .text "1", .text "1", .text "0",
    .number (integerToken 300499), .text "0", .number (integerToken 0), .text "0", .text "0"]
  complete := Nat.le_refl 11

def halfSecondText : List Char := write quoted (.array [.array halfSecondRow.items])

def halfSecondOutside : KlineOutside where
  toCaseOutside := paperOutside
  decode payload := if payload = textBytes halfSecondText then some (String.ofList halfSecondText)
    else none
  limits := fun _ => .ok ()
  parseDecimal := plainDecimal
  dumps v := .ok (canonical v)

def halfSecondCall : KlineCall :=
  ⟨textBytes halfSecondText, "BTCUSDT", Datetime.ofTimestamp 301000000, paperDigest.text, .healthy⟩

def halfSecondKline : Kline := ⟨halfSecondRow, 300500000, 300499000⟩

theorem halfSecond_read : readKline (.array halfSecondRow.items) = .ok halfSecondKline := by
  have hrow : KlineRow.ofTree (.array halfSecondRow.items) = .ok halfSecondRow := by
    unfold KlineRow.ofTree
    exact dif_pos halfSecondRow.complete
  have hopen : datetimeFromMilliseconds (halfSecondRow.item 0) "kline open time" = .ok 500000 :=
    datetimeFromMilliseconds_ok.mpr
      ⟨500, by decide +kernel, by decide, by decide +kernel, by decide +kernel⟩
  have hclose : datetimeFromMilliseconds (halfSecondRow.item 6) "kline close time" = .ok 300499000 :=
    datetimeFromMilliseconds_ok.mpr
      ⟨300499, by decide +kernel, by decide, by decide +kernel, by decide +kernel⟩
  exact bind_ok_iff.mpr ⟨halfSecondRow, hrow, bind_ok_iff.mpr
    ⟨_, hopen, bind_ok_iff.mpr ⟨_, shifted_ok.mpr ⟨by decide, rfl⟩, bind_ok_iff.mpr
      ⟨_, hclose, bind_ok_iff.mpr ⟨_, shifted_ok.mpr ⟨by decide, rfl⟩,
        require_bind_ok.mpr ⟨by decide, rfl⟩⟩⟩⟩⟩⟩

theorem halfSecond_values : klineValues halfSecondOutside halfSecondRow
    = .ok ⟨⟨false, 1, 0⟩, ⟨false, 1, 0⟩, ⟨false, 1, 0⟩, ⟨false, 1, 0⟩, ⟨false, 0, 0⟩⟩ := by
  have hone : plainDecimal "1" = some (.finite ⟨false, 1, 0⟩) := by decide +kernel
  have hzero : plainDecimal "0" = some (.finite ⟨false, 0, 0⟩) := by decide +kernel
  have hprice : ∀ fieldName, numeric halfSecondOutside (.text "1") fieldName false
      = .ok ⟨false, 1, 0⟩ := by
    intro fieldName
    show checkedDecimal fieldName false (plainDecimal "1") = _
    rw [hone]
    exact require_bind_ok.mpr ⟨by decide +kernel, rfl⟩
  have hvolume : numeric halfSecondOutside (.text "0") "kline volume" true
      = .ok ⟨false, 0, 0⟩ := by
    show checkedDecimal _ true (plainDecimal "0") = _
    rw [hzero]
    exact require_bind_ok.mpr ⟨by decide +kernel, rfl⟩
  exact bind_ok_iff.mpr ⟨_, hprice _, bind_ok_iff.mpr ⟨_, hprice _, bind_ok_iff.mpr
    ⟨_, hprice _, bind_ok_iff.mpr ⟨_, hprice _, bind_ok_iff.mpr ⟨_, hvolume, rfl⟩⟩⟩⟩⟩

theorem halfSecond_accepted :
    halfSecondCall.Accepts halfSecondOutside 301000000 .btcusdt [halfSecondKline] where
  collected := Datetime.aware_ofTimestamp (by decide)
  rows := by
    have hloads : loads halfSecondText = some (.array [.array halfSecondRow.items]) :=
      loads_write quoted_readBack _
    refine ⟨.array [.array halfSecondRow.items], [.array halfSecondRow.items], ?_, rfl,
      mapM_ok_iff.mpr (.cons halfSecond_read .nil)⟩
    refine bind_ok_iff.mpr ⟨_, ?_, bind_ok_iff.mpr ⟨(), rfl, rfl⟩⟩
    show (((if textBytes halfSecondText = textBytes halfSecondText then
        some (String.ofList halfSecondText) else none).bind fun text => loads text.toList).map
          Except.ok).getD _ = _
    rw [if_pos rfl, Option.bind_some, String.toList_ofList, hloads]
    rfl
  symbol := by
    have hfound : V3CoreSymbol.ofValue (halfSecondOutside.upper (strip "BTCUSDT"))
        = some .btcusdt := by decide +kernel
    show ((V3CoreSymbol.ofValue (halfSecondOutside.upper (strip "BTCUSDT"))).map Except.ok).getD _
      = _
    rw [hfound]
    rfl
  distinct := nodup_singleton _
  closed := by
    intro kline hkline
    obtain rfl : kline = halfSecondKline := mem_singleton.mp (mem_filter.mp hkline).1
    exact ⟨⟨_, halfSecond_values, by decide +kernel⟩, ⟨_, rfl⟩,
      ⟨paperDigest, readNormalDigest_text paperDigest⟩, by decide⟩

/-- **A bar is not aligned**: it ends half a second after five minutes. -/
theorem half_second_bar : ¬ ∀ bars,
    parseBinanceKlines halfSecondOutside halfSecondCall = .ok bars →
      halfSecondCall.Admits halfSecondOutside bars := by
  intro h
  obtain ⟨bars, hparse, hbars⟩ := returns_of_accepts halfSecond_accepted
  have hends := intervalEnds_eq hbars
  have hmem : (300500000 : Timestamp) ∈ bars.map V3CoreBar.intervalEnd := by
    rw [hends]
    decide
  obtain ⟨bar, hbar, hend⟩ := mem_map.mp hmem
  have haligned := (h bars hparse).aligned bar hbar
  rw [hend] at haligned
  exact absurd haligned (by decide)

end AdvisorAI.Cadence
