import AdvisorAI.Execution.MarketMessages
import AdvisorAI.Lib.Local

/-!
# Which market events share an identifier

`MarketEvent.from_raw` derives the identifier from the type, the instrument, the time, the
digest of the whole message and the sequence. A message of several records can hold two that
agree in all of them and give different prices. `parsed_consistent_iff` says that this is the
only way: the events of any calls are equal where they share an identifier, and a spool takes
them all, exactly when no two records of one message read so (`Unambiguous`).
-/

namespace AdvisorAI

open Lib Lib.Json List

/-! ## Appending to a spool -/

/-- What appending events one after the other returns or raises. -/
def RawEventSpool.appendAll (pydantic : PydanticScalars) (spool : RawEventSpool) :
    List MarketEvent → List (Except PyError Bool)
  | [] => []
  | event :: events =>
    (spool.append pydantic event).1 :: (spool.append pydantic event).2.appendAll pydantic events

def MarketEvent.Printable (e : MarketEvent) : Prop :=
  ¬ RawEventSpool.maxStrDigits < (Nat.toDigits 10 e.sequence).length

variable {pydantic : PydanticScalars} {events : List MarketEvent}

theorem RawEventSpool.appendAll_ok_iff {spool : RawEventSpool} (h : ∀ e ∈ events, e.Printable) :
    (∀ result ∈ spool.appendAll pydantic events, ∃ b, result = .ok b) ↔
      keepsFirst MarketEvent.eventId MarketEvent.same spool.events events = true := by
  induction events generalizing spool with
  | nil => exact ⟨fun _ => rfl, fun _ result hresult => absurd hresult not_mem_nil⟩
  | cons e events ih =>
    have hrest : ∀ e ∈ events, e.Printable := fun e he => h e (mem_cons_of_mem _ he)
    unfold appendAll keepsFirst
    rw [forall_mem_cons]
    unfold append
    cases hget : spool.events.get e.eventId with
    | some prior =>
      dsimp only
      by_cases hsame : prior.same e = true
      · rw [if_pos hsame, hsame, Bool.true_and, ih hrest]
        exact ⟨fun h => h.2, fun h => ⟨⟨false, rfl⟩, h⟩⟩
      · rw [if_neg hsame, Bool.and_eq_true]
        refine ⟨?_, fun h => absurd h.1 hsame⟩
        rintro ⟨⟨b, hb⟩, _⟩
        cases hb
    | none =>
      rw [if_neg (h e mem_cons_self), ih hrest]
      exact ⟨fun h => h.2, fun h => ⟨⟨true, rfl⟩, h⟩⟩

theorem RawEventSpool.appendAll_fresh_iff (h : ∀ e ∈ events, e.Printable) :
    (∀ result ∈ fresh.1.appendAll pydantic events, ∃ b, result = .ok b) ↔
      Lib.Consistent MarketEvent.eventId MarketEvent.same events := by
  rw [appendAll_ok_iff h]
  have hkept : Keyed MarketEvent.eventId fresh.1.events := keyed_empty
  rw [keepsFirst_iff MarketEvent.sameItems hkept]
  refine ⟨fun h a ha b hb => h a ha b (Or.inr hb), ?_⟩
  intro h a ha b hb
  rcases hb with hb | hb
  · cases hb
  · exact h a ha b hb

namespace NativeMarketMessageParser

variable (outside : NativeOutside) (calls : List ParseCall)

/-- The events of some calls; one that raises returns none. -/
def parsedEvents : List MarketEvent :=
  calls.flatMap fun call => (parseMany outside call).toOption.getD []

/-- What the records of the calls that return give. -/
def parsedReadings : List Reading :=
  calls.flatMap fun call =>
    if (parseMany outside call).toOption.isSome then (readAll outside call).toOption.getD [] else []

/-- Two records whose numbers are equal as numbers and spelled alike. -/
def SameNumbers (m n : Numbers) : Prop :=
  m.price.map Decimal.value = n.price.map Decimal.value ∧
    m.quantity.map Decimal.value = n.quantity.map Decimal.value ∧
    m.bid.map Decimal.value = n.bid.map Decimal.value ∧
    m.ask.map Decimal.value = n.ask.map Decimal.value ∧ m.normalized.Perm n.normalized

/-- Records of messages with the same bytes that agree in type, instrument, time and sequence
give the same numbers. -/
def Unambiguous (readings : List Reading) : Prop :=
  ∀ r ∈ readings, ∀ r' ∈ readings, r.raw = r'.raw → r.eventType = r'.eventType →
    r.instrument = r'.instrument → r.occurredAt = r'.occurredAt → r.sequence = r'.sequence →
    SameNumbers r.numbers r'.numbers

/-- A time of UTC as `isoformat` prints it, with or without microseconds. -/
def IsoShape (s : String) : Prop :=
  s.length = 25 ∧ s.toList[16]? = some ':' ∨ s.length = 32 ∧ s.toList[23]? ≠ some ':'

/-- On some readings the times are told apart by their texts, and neither the hash nor the
identifiers collide. -/
structure Identifying (readings : List Reading) : Prop where
  isoformat : ∀ r ∈ readings, ∀ r' ∈ readings,
    outside.isoformat r.occurredAt = outside.isoformat r'.occurredAt → r.occurredAt = r'.occurredAt
  shape : ∀ r ∈ readings, IsoShape (outside.isoformat r.occurredAt)
  sha256 : ∀ r ∈ readings, ∀ r' ∈ readings,
    outside.sha256 r.raw = outside.sha256 r'.raw → r.raw = r'.raw
  uuid5 : ∀ r ∈ readings, ∀ r' ∈ readings,
    outside.uuid5 (r.name outside) = outside.uuid5 (r'.name outside) →
      r.name outside = r'.name outside

variable {outside}

/-! ## A name tells what it is made of -/

theorem append_iso_inj {a b : List Char} {s t : String} (hs : IsoShape s) (ht : IsoShape t)
    (h : a ++ s.toList = b ++ t.toList) : a = b ∧ s = t := by
  have hat : ∀ (a : List Char) {s : String}, IsoShape s →
      ((a ++ s.toList)[(a ++ s.toList).length - 9]? = some ':' ↔ s.length = 25) := by
    intro a s hs
    rw [length_append, String.length_toList]
    rcases hs with ⟨hlength, hchar⟩ | ⟨hlength, hchar⟩
    · rw [List.getElem?_append_right (by omega), hlength,
        show a.length + 25 - 9 - a.length = 16 by omega, hchar]
      exact ⟨fun _ => rfl, fun _ => rfl⟩
    · rw [List.getElem?_append_right (by omega), hlength,
        show a.length + 32 - 9 - a.length = 23 by omega]
      exact ⟨fun h => absurd h hchar, fun h => absurd h (by omega)⟩
  have hlengths : s.length = t.length := by
    have hiff : s.length = 25 ↔ t.length = 25 := by
      rw [← hat a hs, h]
      exact hat b ht
    rcases hs with ⟨hs, -⟩ | ⟨hs, -⟩
    · rw [hs, hiff.mp hs]
    · rcases ht with ⟨ht, -⟩ | ⟨ht, -⟩
      · exact absurd (hiff.mpr ht) (by omega)
      · rw [hs, ht]
  have hparts := append_inj' h (by rw [String.length_toList, String.length_toList, hlengths])
  exact ⟨hparts.1, String.toList_inj.mp hparts.2⟩

theorem colon_not_mem_repr (n : ℕ) : ':' ∉ n.repr.toList := by
  intro hmem
  rw [Nat.toList_repr] at hmem
  have hdigit : (':' : Char).isDigit = true :=
    Nat.isDigit_of_mem_toDigits (by decide) (by decide) hmem
  exact absurd hdigit (by decide)

theorem colon_not_mem_digest (d : Digest) : ':' ∉ d.text.toList :=
  fun hmem => absurd (d.hexadecimal _ hmem) (by decide)

theorem digest_of_text {d e : Digest} (h : d.text = e.text) : d = e := by
  cases d
  cases e
  cases h
  rfl

variable {r r' : Reading}

/-- The name of a reading, from the right: the sequence, the digest, the time, and then the
instrument and the type, which has no colon. -/
theorem name_inj (htype : ':' ∉ r.eventType.toList) (htype' : ':' ∉ r'.eventType.toList)
    (hshape : IsoShape (outside.isoformat r.occurredAt))
    (hshape' : IsoShape (outside.isoformat r'.occurredAt)) (h : r.name outside = r'.name outside) :
    r.eventType = r'.eventType ∧ r.instrument = r'.instrument ∧
      outside.isoformat r.occurredAt = outside.isoformat r'.occurredAt ∧
      outside.sha256 r.raw = outside.sha256 r'.raw ∧ r.sequence = r'.sequence := by
  have htexts := congrArg String.toList h
  simp only [Reading.name, String.toList_append] at htexts
  have hcolon : (":" : String).toList = [':'] := rfl
  rw [hcolon] at htexts
  -- the sequence and the digest have no colon
  rw [append_assoc _ [':'] r.sequence.repr.toList,
    append_assoc _ [':'] r'.sequence.repr.toList] at htexts
  obtain ⟨htexts, hsequence⟩ := append_sep_inj (colon_not_mem_repr r.sequence)
    (colon_not_mem_repr r'.sequence) htexts
  rw [append_assoc _ [':'] (outside.sha256 r.raw).text.toList,
    append_assoc _ [':'] (outside.sha256 r'.raw).text.toList] at htexts
  obtain ⟨htexts, hdigest⟩ := append_sep_inj (colon_not_mem_digest (outside.sha256 r.raw))
    (colon_not_mem_digest (outside.sha256 r'.raw)) htexts
  obtain ⟨htexts, htime⟩ := append_iso_inj hshape hshape' htexts
  -- what is left is the type, the instrument, and a colon behind it
  have hfront : r.eventType.toList ++ ':' :: r.instrument.toList
      = r'.eventType.toList ++ ':' :: r'.instrument.toList := by
    have hleft := append_cancel_right htexts
    rwa [append_assoc, append_assoc] at hleft
  obtain ⟨htypes, hinstruments⟩ := sep_append_inj htype htype' hfront
  exact ⟨String.toList_inj.mp htypes, String.toList_inj.mp hinstruments, htime,
    digest_of_text (String.toList_inj.mp hdigest), natRepr_injective (String.toList_inj.mp hsequence)⟩

/-! ## What an event takes from its reading -/

structure MadeOf (outside : NativeOutside) (r : Reading) (e : MarketEvent) : Prop where
  eventId : e.eventId = outside.uuid5 (r.name outside)
  eventType : e.eventType = r.eventType
  instrumentId : e.instrumentId = r.instrument
  occurredAt : e.occurredAt = r.occurredAt
  sequence : e.sequence = r.sequence
  price : e.price = r.numbers.price
  quantity : e.quantity = r.numbers.quantity
  bid : e.bid = r.numbers.bid
  ask : e.ask = r.numbers.ask
  payload : e.payload = r.payload outside
  printable : e.Printable

variable {e e' : MarketEvent}

theorem toEvent_madeOf (h : r.toEvent outside = .ok e) : MadeOf outside r e := by
  unfold Reading.toEvent at h
  split at h
  · cases h
  · next hprintable =>
    split at h
    · cases h
      exact ⟨rfl, rfl, rfl, rfl, rfl, rfl, rfl, rfl, rfl, rfl, hprintable⟩
    · cases h

variable {α β γ ε : Type} {l : List α} {f : α → Except ε β}

theorem mapM_bind_ok {g : β → Except ε γ} {ys : List γ}
    (h : (l.mapM fun x => (f x).bind g) = .ok ys) :
    ∃ zs, l.mapM f = .ok zs ∧ List.Forall₂ (fun z y => g z = .ok y) zs ys := by
  induction l generalizing ys with
  | nil =>
    cases h
    exact ⟨[], rfl, List.Forall₂.nil⟩
  | cons x l ih =>
    rw [mapM_cons] at h
    obtain ⟨y, hy, h⟩ := ok_of_bind_ok h
    obtain ⟨z, hz, hy⟩ := ok_of_bind_ok hy
    obtain ⟨ys', hys, h⟩ := ok_of_bind_ok h
    cases h
    obtain ⟨zs, hzs, hall⟩ := ih hys
    refine ⟨z :: zs, ?_, List.Forall₂.cons hy hall⟩
    rw [mapM_cons, hz, hzs]
    rfl

theorem parseMany_ok {call : ParseCall} {events : List MarketEvent}
    (h : parseMany outside call = .ok events) : ∃ readings, readAll outside call = .ok readings ∧
      List.Forall₂ (fun r e => MadeOf outside r e) readings events := by
  obtain ⟨p, hp, h⟩ := ok_of_bind_ok h
  obtain ⟨readings, hreadings, hall⟩ := mapM_bind_ok h
  refine ⟨readings, ?_, hall.imp fun _ _ h => toEvent_madeOf h⟩
  unfold readAll
  rw [hp]
  exact hreadings

theorem parsed_madeOf :
    List.Forall₂ (fun r e => MadeOf outside r e) (parsedReadings outside calls)
      (parsedEvents outside calls) := by
  induction calls with
  | nil => exact List.Forall₂.nil
  | cons call calls ih =>
    unfold parsedReadings parsedEvents
    rw [flatMap_cons, flatMap_cons]
    refine rel_append ?_ ih
    cases hparse : parseMany outside call with
    | error e => exact List.Forall₂.nil
    | ok events =>
      obtain ⟨readings, hread, hall⟩ := parseMany_ok hparse
      rw [hread]
      exact hall

variable {record : NativeRecord}

theorem eventType_no_colon {type : String} (h : eventType outside record = .ok type) :
    ':' ∉ type.toList := by
  have htypes : ∀ a ∈ typeAliases, ':' ∉ a.2.toList := by decide
  have halias : ∀ {name : List Char} {type : String}, alias? name = some type → ':' ∉ type.toList := by
    intro name type h
    obtain ⟨a, ha, rfl⟩ := Option.map_eq_some_iff.mp h
    exact htypes a (List.mem_of_find?_eq_some ha)
  unfold eventType at h
  cases htext : textField outside record ["event_type", "type", "event", "e", "channel"] none with
  | none =>
    rw [htext] at h
    cases h
  | some raw =>
    rw [htext] at h
    dsimp only at h
    cases hfirst : alias? (normalizedType raw) with
    | some first =>
      rw [hfirst] at h
      cases h
      exact halias hfirst
    | none =>
      rw [hfirst] at h
      cases hsecond : alias? ((normalizedType raw).filter fun c => c ≠ '_') with
      | some second =>
        rw [hsecond] at h
        cases h
        exact halias hsecond
      | none =>
        rw [hsecond] at h
        cases h

theorem readRecord_no_colon {raw : List UInt8} {instrumentId : Option String}
    {receivedAt : Option Timestamp} {sequence : ℕ}
    (h : readRecord outside raw instrumentId receivedAt record sequence = .ok r) :
    ':' ∉ r.eventType.toList := by
  obtain ⟨type, htype, h⟩ := ok_of_bind_ok h
  split at h
  · cases h
  · obtain ⟨occurredAt, -, h⟩ := ok_of_bind_ok h
    split at h
    · cases h
    · obtain ⟨found, -, h⟩ := ok_of_bind_ok h
      cases h
      exact eventType_no_colon htype

theorem mem_of_mapM_ok {ys : List β} (h : l.mapM f = .ok ys) {y : β} (hy : y ∈ ys) :
    ∃ x ∈ l, f x = .ok y := by
  induction l generalizing ys with
  | nil =>
    cases h
    exact absurd hy not_mem_nil
  | cons x l ih =>
    rw [mapM_cons] at h
    obtain ⟨z, hz, h⟩ := ok_of_bind_ok h
    obtain ⟨zs, hzs, h⟩ := ok_of_bind_ok h
    cases h
    rcases mem_cons.mp hy with heq | hy
    · exact ⟨x, mem_cons_self, by rw [heq, hz]⟩
    · obtain ⟨x', hx', hf⟩ := ih hzs hy
      exact ⟨x', mem_cons_of_mem x hx', hf⟩

theorem parsedReadings_no_colon {calls : List ParseCall} (hr : r ∈ parsedReadings outside calls) :
    ':' ∉ r.eventType.toList := by
  obtain ⟨call, -, hr⟩ := mem_flatMap.mp hr
  split at hr
  · cases hread : readAll outside call with
    | error e =>
      rw [hread] at hr
      exact absurd hr not_mem_nil
    | ok readings =>
      rw [hread] at hr
      obtain ⟨p, -, hread⟩ := ok_of_bind_ok hread
      obtain ⟨record, -, hrecord⟩ := mem_of_mapM_ok hread hr
      obtain ⟨sequence, -, hrecord⟩ := ok_of_bind_ok hrecord
      exact readRecord_no_colon hrecord
  · exact absurd hr not_mem_nil

/-! ## The law -/

theorem same_iff_sameNumbers (h : MadeOf outside r e) (h' : MadeOf outside r' e')
    (hraw : r.raw = r'.raw) (htype : r.eventType = r'.eventType)
    (hinstrument : r.instrument = r'.instrument) (htime : r.occurredAt = r'.occurredAt)
    (hsequence : r.sequence = r'.sequence) :
    e.same e' = true ↔ SameNumbers r.numbers r'.numbers := by
  have hid : e.eventId = e'.eventId := by
    rw [h.eventId, h'.eventId]
    unfold Reading.name
    rw [hraw, htype, hinstrument, htime, hsequence]
  have hpayload : e.payload = e'.payload ↔ r.numbers.normalized.Perm r'.numbers.normalized := by
    have hentries : (r.entries outside).Perm (r'.entries outside) ↔
        r.numbers.normalized.Perm r'.numbers.normalized := by
      unfold Reading.entries
      rw [hraw, htype, hinstrument, hsequence, perm_append_right_iff]
      simp only [perm_cons]
    have hperm : ∀ r : Reading, (r.payload outside).Perm (r.entries outside) :=
      fun r => mergeSort_perm _ _
    rw [h.payload, h'.payload, ← hentries]
    refine ⟨?_, fun hall => mergeSort_congr toLex.injective hall⟩
    intro heq
    have hsorted := hperm r'
    rw [← heq] at hsorted
    exact (hperm r).symm.trans hsorted
  rw [MarketEvent.same_iff]
  simp only [MarketEvent.compared, Prod.mk.injEq, map_cons, map_nil, List.cons.injEq,
    and_true]
  rw [hpayload, h.price, h'.price, h.quantity, h'.quantity, h.bid, h'.bid, h.ask, h'.ask,
    h.eventType, h'.eventType, h.instrumentId, h'.instrumentId, h.occurredAt, h'.occurredAt,
    h.sequence, h'.sequence]
  unfold SameNumbers
  exact ⟨fun hall => by tauto, fun hall => by tauto⟩

theorem forall₂_partners {R : α → β → Prop} {m : List β} (h : List.Forall₂ R l m) :
    (∀ a ∈ l, ∃ b ∈ m, R a b) ∧ ∀ b ∈ m, ∃ a ∈ l, R a b := by
  induction h with
  | nil => exact ⟨fun a ha => absurd ha not_mem_nil, fun b hb => absurd hb not_mem_nil⟩
  | cons hab _ ih =>
    refine ⟨?_, ?_⟩
    · intro a ha
      rcases mem_cons.mp ha with heq | ha
      · exact ⟨_, mem_cons_self, heq ▸ hab⟩
      · obtain ⟨b, hb, hR⟩ := ih.1 a ha
        exact ⟨b, mem_cons_of_mem _ hb, hR⟩
    · intro b hb
      rcases mem_cons.mp hb with heq | hb
      · exact ⟨_, mem_cons_self, heq ▸ hab⟩
      · obtain ⟨a, ha, hR⟩ := ih.2 b hb
        exact ⟨a, mem_cons_of_mem _ ha, hR⟩

theorem eventId_eq_iff {readings : List Reading} (hidentifying : Identifying outside readings)
    (hcolon : ∀ r ∈ readings, ':' ∉ r.eventType.toList) (hr : r ∈ readings) (hr' : r' ∈ readings)
    (h : MadeOf outside r e) (h' : MadeOf outside r' e') :
    e.eventId = e'.eventId ↔
      r.raw = r'.raw ∧ r.eventType = r'.eventType ∧ r.instrument = r'.instrument ∧
        r.occurredAt = r'.occurredAt ∧ r.sequence = r'.sequence := by
  rw [h.eventId, h'.eventId]
  refine ⟨?_, ?_⟩
  · intro hid
    have hname := hidentifying.uuid5 r hr r' hr' hid
    obtain ⟨htype, hinstrument, htime, hdigest, hsequence⟩ := name_inj (hcolon r hr) (hcolon r' hr')
      (hidentifying.shape r hr) (hidentifying.shape r' hr') hname
    exact ⟨hidentifying.sha256 r hr r' hr' hdigest, htype, hinstrument,
      hidentifying.isoformat r hr r' hr' htime, hsequence⟩
  · intro ⟨hraw, htype, hinstrument, htime, hsequence⟩
    unfold Reading.name
    rw [hraw, htype, hinstrument, htime, hsequence]

/-- **Parsed events are equal where they share an identifier**, and a spool takes them all,
exactly when no two records of one message agree in type, instrument, time and sequence and
differ in their numbers. -/
theorem parsed_consistent_iff (outside : NativeOutside) (pydantic : PydanticScalars)
    (calls : List ParseCall) (h : Identifying outside (parsedReadings outside calls)) :
    (Lib.Consistent MarketEvent.eventId MarketEvent.same (parsedEvents outside calls) ↔
      Unambiguous (parsedReadings outside calls)) ∧
    ((∀ result ∈ RawEventSpool.fresh.1.appendAll pydantic (parsedEvents outside calls),
      ∃ b, result = .ok b) ↔ Unambiguous (parsedReadings outside calls)) := by
  have hall : List.Forall₂ (fun r e => MadeOf outside r e) (parsedReadings outside calls)
      (parsedEvents outside calls) := parsed_madeOf calls
  obtain ⟨hmakes, hmade⟩ := forall₂_partners hall
  have hid := fun {r r' : Reading} (hr : r ∈ parsedReadings outside calls)
      (hr' : r' ∈ parsedReadings outside calls) {e e' : MarketEvent} (hre : MadeOf outside r e)
      (hre' : MadeOf outside r' e') =>
    eventId_eq_iff h (fun _ hr => parsedReadings_no_colon hr) hr hr' hre hre'
  have hconsistent : Lib.Consistent MarketEvent.eventId MarketEvent.same (parsedEvents outside calls) ↔
      Unambiguous (parsedReadings outside calls) := by
    refine ⟨?_, ?_⟩
    · intro hall r hr r' hr' hraw htype hinstrument htime hsequence
      obtain ⟨e, he, hre⟩ := hmakes r hr
      obtain ⟨e', he', hre'⟩ := hmakes r' hr'
      have hsame := hall e he e' he'
        ((hid hr hr' hre hre').mpr ⟨hraw, htype, hinstrument, htime, hsequence⟩)
      exact (same_iff_sameNumbers hre hre' hraw htype hinstrument htime hsequence).mp hsame
    · intro hall e he e' he' hids
      obtain ⟨r, hr, hre⟩ := hmade e he
      obtain ⟨r', hr', hre'⟩ := hmade e' he'
      obtain ⟨hraw, htype, hinstrument, htime, hsequence⟩ := (hid hr hr' hre hre').mp hids
      exact (same_iff_sameNumbers hre hre' hraw htype hinstrument htime hsequence).mpr
        (hall r hr r' hr' hraw htype hinstrument htime hsequence)
  refine ⟨hconsistent, ?_⟩
  rw [RawEventSpool.appendAll_fresh_iff, hconsistent]
  intro e he
  obtain ⟨r, -, hre⟩ := hmade e he
  exact hre.printable

end NativeMarketMessageParser

/-! ## A message with two prices -/

open NativeMarketMessageParser

theorem batchDigest_length :
    "62d47affede5b29717f33b08b76b29022fa7b33d83297fb3f8f6152366cd3faa".length = 64 := by
  decide +kernel

theorem batchDigest_hexadecimal :
    ∀ c ∈ "62d47affede5b29717f33b08b76b29022fa7b33d83297fb3f8f6152366cd3faa".toList,
      c ∈ "0123456789abcdef".toList := by
  decide +kernel

def paperNative : NativeOutside where
  decode := fun _ => none
  dumps := fun v => some (String.ofList (write quotedAscii v))
  str := fun _ => ""
  decimal := fun s => (["0", "1", "2", "5"].zip [0, 1, 2, 5]).findSome? fun p =>
    if p.1 = s then some (.finite (Decimal.ofNat p.2)) else none
  fromisoformat := fun _ => none
  thousandth := fun d => d
  fromtimestamp := fun _ => .ok 0
  isoformat := fun _ => "1970-01-01T00:00:00+00:00"
  sha256 := fun _ => ⟨"62d47affede5b29717f33b08b76b29022fa7b33d83297fb3f8f6152366cd3faa",
    batchDigest_length, batchDigest_hexadecimal⟩
  uuid5 := fun _ => 260217810310689058772670149638072588809

def tradeRecord (price : String) : Tree :=
  .object [("price", .text price), ("qty", .text "1"), ("sequence", .text "5"),
    ("symbol", .text "BTC"), ("ts", .text "0"), ("type", .text "trade")]

def tradeBatch (prices : List String) : ParseCall where
  raw := .mapping [("data", .array (prices.map tradeRecord))]
  instrumentId := none
  receivedAt := none
  sequence := none

def tradeKey (e : MarketEvent) : UUID × ℕ × Option Decimal := (e.eventId, e.sequence, e.price)

theorem appendAll_conflict (pydantic : PydanticScalars) {a b : MarketEvent} (ha : a.Printable)
    (hid : a.eventId = b.eventId) (hdiffer : a.same b = false) :
    ∃ e, RawEventSpool.fresh.1.appendAll pydantic [a, b] = [.ok true, .error e] := by
  refine ⟨valueError ("event ID " ++ uuidText b.eventId ++ " is reused for different content"), ?_⟩
  have hfirst : RawEventSpool.fresh.1.append pydantic a = (.ok true,
      ⟨some ([] ++ (a.line pydantic ++ [newline])), Dict.empty.set a.eventId a⟩) := if_neg ha
  have hget : (Dict.empty.set a.eventId a).get b.eventId = some a := by
    rw [Dict.get_set, if_pos hid.symm]
  unfold RawEventSpool.appendAll RawEventSpool.appendAll RawEventSpool.appendAll
  rw [hfirst]
  unfold RawEventSpool.append
  rw [hget]
  dsimp only
  rw [hdiffer]
  rfl

/-- Two trades of one message have one identifier and two prices, and a spool refuses the
second. -/
theorem parsed_events_conflict : ∃ a b,
    parseMany paperNative (tradeBatch ["1", "2"]) = .ok [a, b] ∧ a.eventId = b.eventId ∧
    a.same b = false ∧
    ∃ e, RawEventSpool.fresh.1.appendAll paperScalars [a, b] = [.ok true, .error e] := by
  obtain ⟨l, hl, hkeys⟩ := ok_of_toOption_any (x := parseMany paperNative (tradeBatch ["1", "2"]))
    (p := fun l => decide (l.map tradeKey =
      [(260217810310689058772670149638072588809, 5, some (Decimal.ofNat 1)),
        (260217810310689058772670149638072588809, 5, some (Decimal.ofNat 2))]))
    (by decide +kernel)
  have hkeys := of_decide_eq_true hkeys
  obtain ⟨a, l', rfl, ha, hl'⟩ := map_eq_cons_iff.mp hkeys
  obtain ⟨b, l'', rfl, hb, hl''⟩ := map_eq_cons_iff.mp hl'
  obtain rfl := map_eq_nil_iff.mp hl''
  have hid : a.eventId = b.eventId :=
    (congrArg Prod.fst ha).trans (congrArg Prod.fst hb).symm
  have hprintable : a.Printable := by
    have hsequence : a.sequence = 5 := congrArg (fun k => k.2.1) ha
    unfold MarketEvent.Printable
    rw [hsequence]
    decide
  have hdiffer : a.same b = false := by
    rw [Bool.eq_false_iff]
    intro hsame
    have hprices : a.price.map Decimal.value = b.price.map Decimal.value := by
      have hcompared := MarketEvent.same_iff.mp hsame
      simp only [MarketEvent.compared, Prod.mk.injEq, map_cons, List.cons.injEq] at hcompared
      exact hcompared.2.2.2.2.2.1.1
    have hone : a.price = some (Decimal.ofNat 1) := congrArg (fun k => k.2.2) ha
    have htwo : b.price = some (Decimal.ofNat 2) := congrArg (fun k => k.2.2) hb
    rw [hone, htwo] at hprices
    simp at hprices
  exact ⟨a, b, hl, hid, hdiffer, appendAll_conflict paperScalars hprintable hid hdiffer⟩

/-- One trade, parsed twice. -/
theorem parsed_consistent_paper :
    (Lib.Consistent MarketEvent.eventId MarketEvent.same
        (parsedEvents paperNative [tradeBatch ["1"], tradeBatch ["1"]]) ↔
      Unambiguous (parsedReadings paperNative [tradeBatch ["1"], tradeBatch ["1"]])) ∧
    ((∀ result ∈ RawEventSpool.fresh.1.appendAll paperScalars
        (parsedEvents paperNative [tradeBatch ["1"], tradeBatch ["1"]]), ∃ b, result = .ok b) ↔
      Unambiguous (parsedReadings paperNative [tradeBatch ["1"], tradeBatch ["1"]])) := by
  refine parsed_consistent_iff paperNative paperScalars [tradeBatch ["1"], tradeBatch ["1"]] ?_
  have hone : (parsedReadings paperNative [tradeBatch ["1"]]).length = 1 := by decide +kernel
  obtain ⟨r, hr⟩ := length_eq_one_iff.mp hone
  have hboth : parsedReadings paperNative [tradeBatch ["1"], tradeBatch ["1"]] = [r] ++ [r] := by
    rw [← hr]
    show parsedReadings paperNative ([tradeBatch ["1"]] ++ [tradeBatch ["1"]]) = _
    exact flatMap_append
  rw [hboth]
  have hequal : ∀ r₁ ∈ [r] ++ [r], ∀ r₂ ∈ [r] ++ [r], r₁ = r₂ := by
    intro r₁ h₁ r₂ h₂
    have h₁ : r₁ = r := by simpa using h₁
    have h₂ : r₂ = r := by simpa using h₂
    rw [h₁, h₂]
  refine ⟨?_, ?_, ?_, ?_⟩
  · exact fun r₁ h₁ r₂ h₂ _ => congrArg _ (hequal r₁ h₁ r₂ h₂)
  · have hshape : IsoShape "1970-01-01T00:00:00+00:00" := Or.inl (by decide +kernel)
    exact fun _ _ => hshape
  · exact fun r₁ h₁ r₂ h₂ _ => congrArg _ (hequal r₁ h₁ r₂ h₂)
  · exact fun r₁ h₁ r₂ h₂ _ => congrArg _ (hequal r₁ h₁ r₂ h₂)

end AdvisorAI
