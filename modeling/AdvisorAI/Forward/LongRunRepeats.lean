import AdvisorAI.Forward.LongRunRecords

/-!
# A call that is made twice

The candidate and the linker of a long run may record the same case, and each process may fail
the run for the same incident. `TwoCalls` is a file with two calls of the same arguments, whose
stages come in any order, and `repeated_once_iff` says when the second of them returns and one
event is there: not when both have looked at the file before one has appended.
-/

namespace AdvisorAI

open Lib Lib.Json Option Projection
open List hiding after

/-! ## Two calls on one file -/

inductive CallPlace where
  | inProgress (stage : Stage)
  | returned
  | raised (e : PyError)

namespace CallPlace

def stage : CallPlace → Option Stage
  | inProgress stage => some stage
  | returned => none
  | raised _ => none

def ofResult {outside : LongRunOutside} : Except PyError (Progress outside) → CallPlace
  | .ok (.more stage) => inProgress stage
  | .ok (.returned _) => returned
  | .error e => raised e

def error : CallPlace → Option PyError
  | raised e => some e
  | _ => none

def Ended (place : CallPlace) : Prop := place.stage = none

end CallPlace

/-- A file, where its two calls are, and which of them has appended first. A coordinator reads the
file again in each stage, so that it makes no difference whether the calls have one or two. -/
structure TwoCalls (outside : LongRunOutside) where
  file : List (LongRunEvent outside)
  place : Bool → CallPlace
  first : Option Bool

namespace TwoCalls

variable {outside : LongRunOutside} (prereg : LongRunPreregistration)

def start (file : List (LongRunEvent outside)) (call : CoordinatorCall) : TwoCalls outside :=
  ⟨file, fun _ => .inProgress (.start call), none⟩

variable (w : TwoCalls outside)

def turn (who : Bool) (stage : Stage) : TwoCalls outside :=
  let result := stage.run prereg (Projection.load prereg w.file)
  { file := w.file ++ result.1.toList
    place := Function.update w.place who (.ofResult result.2)
    first := w.first <|> result.1.map fun _ => who }

def step (who : Bool) : Option (TwoCalls outside) :=
  (w.place who).stage.map (w.turn prereg who)

end TwoCalls

/-- One call has looked at the file and appended before the other looks at it. -/
def OneAfterOther : List Bool → Prop
  | first :: second :: _ => first = second
  | _ => False

section Repeats

variable {outside : LongRunOutside}

/-- What is appended: one event, and where it excludes a case that the admission cannot do
without, the failure of the run. -/
def OneRecord (prereg : LongRunPreregistration) (kind : LongRunEventType)
    (file file' : List (LongRunEvent outside)) : Prop :=
  ∃ event, event.kind = some kind ∧ (file' = file ++ [event] ∨
    (kind = .caseExcluded ∧ ∃ p fatal, Projection.load prereg (file ++ [event]) = .ok p ∧
      ¬ p.Feasible prereg ∧ fatal.kind = some .generationFatal ∧ file' = file ++ [event, fatal]))

/-- The call that did not append first returns, and one event is there. -/
def RecordedOnce (prereg : LongRunPreregistration) (kind : LongRunEventType)
    (file : List (LongRunEvent outside)) (w : TwoCalls outside) (who : Bool) : Prop :=
  w.place (!who) = .returned ∧ OneRecord prereg kind file w.file

variable {prereg : LongRunPreregistration} {w w' : TwoCalls outside} {who : Bool}

theorem TwoCalls.step_ok (h : w.step prereg who = some w') :
    ∃ stage, w.place who = .inProgress stage ∧ w' = w.turn prereg who stage := by
  obtain ⟨stage, hstage, h⟩ := map_eq_some_iff.mp h
  refine ⟨stage, ?_, h.symm⟩
  cases hplace : w.place who with
  | inProgress found =>
    rw [hplace] at hstage
    exact congrArg _ (Option.some.inj hstage)
  | returned | raised =>
    rw [hplace] at hstage
    cases hstage

theorem TwoCalls.turn_place_self (who : Bool) (stage : Stage) : (w.turn prereg who stage).place who
    = .ofResult (stage.run prereg (Projection.load prereg w.file)).2 := by
  exact Function.update_self ..

theorem TwoCalls.turn_place_other (who : Bool) (stage : Stage) :
    (w.turn prereg who stage).place (!who) = w.place (!who) := by
  exact Function.update_of_ne (by simp) ..

variable {stage : Stage}

theorem TwoCalls.turn_quiet (h : (stage.run prereg (Projection.load prereg w.file)).1 = none) :
    (w.turn prereg who stage).file = w.file ∧ (w.turn prereg who stage).first = w.first := by
  unfold turn
  dsimp only
  rw [h]
  exact ⟨append_nil _, by cases w.first <;> rfl⟩

theorem CallPlace.ofResult_more {result : Except PyError (Progress outside)}
    (h : ofResult result = .inProgress stage) : result = .ok (.more stage) := by
  cases result with
  | error e => cases h
  | ok progress =>
    cases progress with
    | returned memory => cases h
    | more next =>
      cases h
      rfl

variable {schedule : List Bool}

theorem TwoCalls.run_keeps {I : TwoCalls outside → Prop}
    (hstep : ∀ w who stage, I w → w.place who = .inProgress stage → I (w.turn prereg who stage))
    (hw : I w) (hrun : Runs.runFrom (TwoCalls.step prereg) w schedule = some w') : I w' := by
  refine Runs.run_invariant ?_ hw hrun
  intro w who next hw hnext
  obtain ⟨stage, hplace, rfl⟩ := TwoCalls.step_ok hnext
  exact hstep w who stage hw hplace

theorem TwoCalls.first_stays (hw : w.first = some who)
    (hrun : Runs.runFrom (TwoCalls.step prereg) w schedule = some w') : w'.first = some who := by
  refine TwoCalls.run_keeps (I := fun w => w.first = some who) ?_ hw hrun
  intro w other stage hw _
  show (w.first <|> _) = _
  rw [hw]
  rfl

/-! ### The first append -/

variable {file : List (LongRunEvent outside)} {call : CoordinatorCall} {kind : LongRunEventType}

/-- The draft that a call makes of a file, and the event that it appends to it. -/
structure FirstRecord (prereg : LongRunPreregistration) (file : List (LongRunEvent outside))
    (call : CoordinatorCall) (p : Projection outside) (draft : Draft) (after : AfterAppend)
    (event : LongRunEvent outside) : Prop where
  loads : Projection.load prereg file = .ok p
  begins : p.begin prereg call = .ok (some (.append draft after))
  prepares : prepare prereg draft (.ok p) = .ok (p, event)

/-- Nothing is appended yet, and each call is in its first stage or has its draft. -/
structure Unwritten (prereg : LongRunPreregistration) (file : List (LongRunEvent outside))
    (call : CoordinatorCall) (w : TwoCalls outside) : Prop where
  file_eq : w.file = file
  first_eq : w.first = none
  places : ∀ who stage, w.place who = .inProgress stage → stage = .start call ∨
    ∃ p draft after, Projection.load prereg file = .ok p ∧
      p.begin prereg call = .ok (some (.append draft after)) ∧ stage = .append draft after

theorem start_unwritten : Unwritten prereg file call (TwoCalls.start file call) := by
  refine ⟨rfl, rfl, ?_⟩
  intro who stage hplace
  cases hplace
  exact Or.inl rfl

/-- **A call that appends has made a record of the file.** -/
theorem firstRecord_of_first (hkind : call.recordedKind = some kind)
    (hrun : Runs.runFrom (TwoCalls.step prereg) (TwoCalls.start file call) schedule = some w)
    (hfirst : w.first = some who) :
    ∃ p draft after event, FirstRecord prereg file call p draft after event := by
  by_contra hnone
  have hunwritten : Unwritten prereg file call w := by
    refine TwoCalls.run_keeps ?_ start_unwritten hrun
    intro w who stage hw hplace
    have hquiet : (stage.run prereg (Projection.load prereg w.file)).1 = none := by
      cases hwritten : (stage.run prereg (Projection.load prereg w.file)).1 with
      | none => rfl
      | some event =>
        obtain ⟨draft, after, p, hstage, hprepare⟩ := Stage.run_some hwritten
        rcases hw.places who stage hplace with hstart | ⟨p', draft', after', hload, hbegin, hdraft⟩
        · rw [hstart] at hstage
          cases hstage
        · rw [hdraft] at hstage
          cases hstage
          have hread := (prepare_ok.mp hprepare).2.1
          rw [hw.file_eq, hload] at hread hprepare
          cases hread
          exact absurd ⟨p, draft, after, event, hload, hbegin, hprepare⟩ hnone
    obtain ⟨hfile, hfirst⟩ := TwoCalls.turn_quiet hquiet
    refine ⟨hfile.trans hw.file_eq, hfirst.trans hw.first_eq, ?_⟩
    intro other next hnext
    by_cases hother : other = who
    · subst hother
      rw [TwoCalls.turn_place_self] at hnext
      have hmore := CallPlace.ofResult_more hnext
      rcases hw.places other stage hplace with rfl | ⟨p, draft, after, hload, hbegin, rfl⟩
      · change (do
          let p ← Projection.load prereg w.file
          let next ← p.begin prereg call
          return Progress.ofOption p next) = _ at hmore
        rw [bind_ok_iff] at hmore
        obtain ⟨p, hload, hmore⟩ := hmore
        rw [bind_ok_iff] at hmore
        obtain ⟨found, hbegin, hmore⟩ := hmore
        cases found with
        | none => cases hmore
        | some stage =>
          cases hmore
          obtain ⟨draft, after, rfl, -⟩ := begun_records (begin_ok hbegin) hkind
          rw [hw.file_eq] at hload
          exact Or.inr ⟨p, draft, after, hload, hbegin, rfl⟩
      · obtain ⟨prepared, -, hprepare, -⟩ := Stage.run_more hmore
        rw [Stage.run_append hprepare] at hquiet
        cases hquiet
    · have hsame : other = !who := by cases other <;> cases who <;> simp_all
      rw [hsame, TwoCalls.turn_place_other, ← hsame] at hnext
      exact hw.places other next hnext
  rw [hunwritten.first_eq] at hfirst
  cases hfirst

variable {p q r : Projection outside} {event : LongRunEvent outside} {after : AfterAppend}
  {draft : Draft}

/-- What the first append leaves. -/
theorem FirstRecord.advances (houtside : outside.KeepsKeys)
    (h : FirstRecord prereg file call p draft after event) (hkind : call.recordedKind = some kind) :
    ∃ q, p.advance prereg event = .ok q ∧ Projection.Applied prereg p event kind q ∧
      IsRecorded prereg q call ∧
        (event.Legible → Projection.load prereg (file ++ [event]) = .ok q) := by
  obtain ⟨-, -, hevent⟩ := prepare_ok.mp h.prepares
  have hbegun := begin_ok h.begins
  obtain ⟨_, _, hdraft, htype, -, hstate⟩ := begun_records hbegun hkind
  cases hdraft
  have hraw : ¬ call.Raw LongRunEventType.recorded := by
    cases hbegun <;> first | exact id | cases hkind
  have hvalue : LongRunEventType.ofValue draft.eventType = some kind := by
    rw [htype, LongRunEventType.ofValue_value]
  obtain ⟨q, kind', hadvance, happlied, -⟩ := nextEvent_advances_of_still h.loads (by
    intro _ other hother hotherType _
    have hsame : other = kind := by
      rw [hotherType, LongRunEventType.ofValue_value] at hvalue
      exact Option.some.inj hvalue
    subst hsame
    refine ⟨hstate ?_, (begun_sound hbegun hraw other hother hotherType).1⟩
    rintro rfl
    exact absurd hother (by decide)) hevent
  obtain ⟨t, -, hfields, -⟩ := nextEvent_ok hevent
  have hsame : kind' = kind := by
    have heventType : event.eventType = draft.eventType :=
      congrArg LongRunEventFields.eventType hfields
    have hkinds := happlied.kind_eq
    rw [heventType, hvalue] at hkinds
    exact (Option.some.inj hkinds).symm
  subst hsame
  refine ⟨q, hadvance, happlied, ?_, ?_⟩
  · exact recorded_of_applied houtside hbegun hkind (congrArg LongRunEventFields.payload hfields)
      happlied
  · intro hlegible
    exact load_concat.mpr ⟨p, h.loads, take_of_nextEvent hevent hlegible hadvance⟩

/-- Where the calls are after the first append. -/
structure FirstWritten (file : List (LongRunEvent outside)) (who : Bool) (w : TwoCalls outside)
    (event : LongRunEvent outside) (next : CallPlace) : Prop where
  file_eq : w.file = file ++ [event]
  first_eq : w.first = some who
  place_eq : w.place who = next

theorem FirstRecord.turn_start (h : FirstRecord prereg file call p draft after event)
    (hfile : w.file = file) (who : Bool) :
    (w.turn prereg who (.start call)).file = file ∧
      (w.turn prereg who (.start call)).first = w.first ∧
      (w.turn prereg who (.start call)).place who = .inProgress (.append draft after) := by
  have hquiet : ((Stage.start call).run prereg (Projection.load prereg w.file)).1 = none := rfl
  obtain ⟨hsame, hfirst⟩ : (w.turn prereg who (.start call)).file = w.file ∧
      (w.turn prereg who (.start call)).first = w.first := TwoCalls.turn_quiet hquiet
  refine ⟨hsame.trans hfile, hfirst, ?_⟩
  rw [TwoCalls.turn_place_self, hfile, h.loads]
  show CallPlace.ofResult (do
    let next ← p.begin prereg call
    return Progress.ofOption p next) = _
  rw [h.begins]
  rfl

theorem FirstRecord.turn_append (h : FirstRecord prereg file call p draft after event)
    (hadvance : p.advance prereg event = .ok q) (hfile : w.file = file) (hfirst : w.first = none)
    (who : Bool) :
    FirstWritten file who (w.turn prereg who (.append draft after)) event
      (.ofResult (.ok (after.next q draft.observedAt))) := by
  have hprepare : prepare prereg draft (Projection.load prereg w.file) = .ok (p, event) := by
    rw [hfile, h.loads]
    exact h.prepares
  have hrun : (Stage.append draft after).run prereg (Projection.load prereg w.file) = _ :=
    Stage.run_append hprepare
  rw [hadvance] at hrun
  refine ⟨?_, ?_, ?_⟩
  · show w.file ++ Option.toList _ = _
    rw [hrun, hfile]
    rfl
  · show (w.first <|> _) = _
    rw [hrun, hfirst]
    rfl
  · rw [TwoCalls.turn_place_self, hrun]
    rfl

/-- **The opening of a run of two calls**, up to the first append. The other call has not looked at
the file, or it has its draft already. -/
theorem opening (h : FirstRecord prereg file call p draft after event)
    (hadvance : p.advance prereg event = .ok q)
    (hrun : Runs.runFrom (TwoCalls.step prereg) (TwoCalls.start file call) schedule = some w)
    (hfirst : w.first = some who) :
    ∃ w₁ rest, Runs.runFrom (TwoCalls.step prereg) w₁ rest = some w ∧
      FirstWritten file who w₁ event (.ofResult (.ok (after.next q draft.observedAt))) ∧
      ((OneAfterOther schedule ∧ w₁.place (!who) = .inProgress (.start call)) ∨
        (¬ OneAfterOther schedule ∧ w₁.place (!who) = .inProgress (.append draft after))) := by
  have hnext : ∀ {w₀ : TwoCalls outside} {who : Bool} {stage : Stage} {rest : List Bool},
      w₀.place who = .inProgress stage →
      Runs.runFrom (TwoCalls.step prereg) w₀ (who :: rest) = some w →
        Runs.runFrom (TwoCalls.step prereg) (w₀.turn prereg who stage) rest = some w := by
    intro w₀ who stage rest hplace hrest
    have hstep : w₀.step prereg who = some (w₀.turn prereg who stage) := by
      unfold TwoCalls.step
      rw [hplace]
      rfl
    rwa [Runs.runFrom_cons hstep] at hrest
  match schedule with
  | [] =>
    cases hrun
    cases hfirst
  | a :: rest =>
    obtain ⟨hfile₁, hfirst₁, hplace₁⟩ :=
      h.turn_start (w := TwoCalls.start file call) rfl a
    have hother₁ : ((TwoCalls.start file call).turn prereg a (.start call)).place (!a)
        = .inProgress (.start call) := TwoCalls.turn_place_other a _
    have hrest := hnext rfl hrun
    generalize (TwoCalls.start file call).turn prereg a (.start call) = w₁ at *
    match rest with
    | [] =>
      cases hrest
      rw [hfirst₁] at hfirst
      cases hfirst
    | b :: rest =>
      by_cases hb : b = a
      · subst hb
        have hrest₂ := hnext hplace₁ hrest
        have hwritten := h.turn_append hadvance hfile₁ hfirst₁ b
        have hwho := TwoCalls.first_stays hwritten.first_eq hrest₂
        rw [hfirst, Option.some.injEq] at hwho
        subst hwho
        exact ⟨_, rest, hrest₂, hwritten, Or.inl ⟨rfl,
          (TwoCalls.turn_place_other who _).trans hother₁⟩⟩
      · have hab : b = !a := by cases a <;> cases b <;> simp_all
        subst hab
        obtain ⟨hfile₂, hfirst₂, hplace₂⟩ := h.turn_start hfile₁ (!a)
        rw [hfirst₁] at hfirst₂
        have hother₂ : (w₁.turn prereg (!a) (.start call)).place a
            = .inProgress (.append draft after) := by
          have hsame : (w₁.turn prereg (!a) (.start call)).place (!!a) = w₁.place (!!a) :=
            TwoCalls.turn_place_other (!a) (.start call)
          rw [Bool.not_not] at hsame
          exact hsame.trans hplace₁
        have hrest₂ := hnext hother₁ hrest
        generalize w₁.turn prereg (!a) (.start call) = w₂ at *
        have hboth : ∀ who, w₂.place who = .inProgress (.append draft after) := by
          intro who
          rcases Bool.eq_or_eq_not who a with rfl | rfl
          · exact hother₂
          · exact hplace₂
        match rest with
        | [] =>
          cases hrest₂
          rw [hfirst₂] at hfirst
          cases hfirst
        | c :: rest =>
          have hrest₃ := hnext (hboth c) hrest₂
          have hwritten := h.turn_append hadvance hfile₂ hfirst₂ c
          have hwho := TwoCalls.first_stays hwritten.first_eq hrest₃
          rw [hfirst, Option.some.injEq] at hwho
          subst hwho
          refine ⟨_, rest, hrest₃, hwritten, Or.inr ⟨fun hsame => hb hsame.symm, ?_⟩⟩
          exact (TwoCalls.turn_place_other who _).trans (hboth _)

/-! ### After the first append -/

/-- Where the first call gets to with its own stages: it has ended, or it looks whether the
admission can still be reached, and fails the run. -/
inductive Followed (prereg : LongRunPreregistration) (kind : LongRunEventType)
    (file : List (LongRunEvent outside)) : List (LongRunEvent outside) → CallPlace → Prop where
  | ended {place : CallPlace} (h : place.Ended) : Followed prereg kind file file place
  | accounting {t : Datetime} (hkind : kind = .caseExcluded) :
    Followed prereg kind file file (.inProgress (.accounting t))
  | failing {t : Datetime} {q : Projection outside} (hkind : kind = .caseExcluded)
    (hload : Projection.load prereg file = .ok q) (h : ¬ q.Feasible prereg) :
    Followed prereg kind file file (.inProgress (.start (infeasibleCall t)))
  | fatalDraft {t : Datetime} {q : Projection outside} {draft : Draft} {after : AfterAppend}
    (hkind : kind = .caseExcluded) (hload : Projection.load prereg file = .ok q)
    (h : ¬ q.Feasible prereg)
    (hbegin : q.begin prereg (infeasibleCall t) = .ok (some (.append draft after))) :
    Followed prereg kind file file (.inProgress (.append draft after))
  | failed {place : CallPlace} {q r : Projection outside} {fatal : LongRunEvent outside}
    (hkind : kind = .caseExcluded) (hload : Projection.load prereg file = .ok q)
    (h : ¬ q.Feasible prereg) (happlied : Projection.Applied prereg q fatal .generationFatal r)
    (hafter : Projection.load prereg (file ++ [fatal]) = .ok r) (hended : place.Ended) :
    Followed prereg kind file (file ++ [fatal]) place

variable {f : List (LongRunEvent outside)} {place : CallPlace}

theorem Followed.of_ended (h : Followed prereg kind file f place)
    (hended : ¬ kind = .caseExcluded) : f = file ∧ place.Ended := by
  cases h with
  | ended hplace => exact ⟨rfl, hplace⟩
  | accounting hkind => exact absurd hkind hended
  | failing hkind _ _ => exact absurd hkind hended
  | fatalDraft hkind _ _ _ => exact absurd hkind hended
  | failed hkind _ _ _ _ _ => exact absurd hkind hended

theorem infeasible_plain (t : Datetime) (h : UnbrokenText prereg.generationId) :
    (infeasibleCall t).Plain prereg := by
  have htexts : ∀ s ∈ ["GENERATION_CANNOT_SATISFY_PHASE4_ADMISSION",
      "clean minimum is no longer mathematically attainable"], UnbrokenText s := by decide +kernel
  exact ⟨h, htexts⟩

/-- **A stage of the first call** after its append. -/
theorem Followed.turn (houtside : outside.KeepsKeys)
    (htimes : ∀ t, UnbrokenText (outside.timeText t))
    (hgeneration : ∀ q, Projection.load prereg file = .ok q → UnbrokenText prereg.generationId)
    (h : Followed prereg kind file f (.inProgress stage)) :
    Followed prereg kind file (f ++ (stage.run prereg (Projection.load prereg f)).1.toList)
      (.ofResult (stage.run prereg (Projection.load prereg f)).2) := by
  cases h with
  | ended hended => cases hended
  | failed _ _ _ _ _ hended => cases hended
  | @accounting t hkind =>
    show Followed prereg kind file (file ++ []) (.ofResult (do
      let p ← Projection.load prereg file
      if p.Feasible prereg then return .returned p
      return .more (.start (infeasibleCall t))))
    rw [append_nil]
    cases hload : Projection.load prereg file with
    | error e => exact .ended rfl
    | ok q =>
      show Followed prereg kind file file (.ofResult
        (if q.Feasible prereg then _ else _))
      by_cases hfeasible : q.Feasible prereg
      · rw [if_pos hfeasible]
        exact .ended rfl
      · rw [if_neg hfeasible]
        exact .failing hkind hload hfeasible
  | @failing t q hkind hload hinfeasible =>
    show Followed prereg kind file (file ++ []) (.ofResult (do
      let p ← Projection.load prereg file
      let next ← p.begin prereg (infeasibleCall t)
      return Progress.ofOption p next))
    rw [append_nil, hload]
    show Followed prereg kind file file (.ofResult (do
      let next ← q.begin prereg (infeasibleCall t)
      return Progress.ofOption q next))
    cases hbegin : q.begin prereg (infeasibleCall t) with
    | error e => exact .ended rfl
    | ok next =>
      cases next with
      | none => exact .ended rfl
      | some next =>
        obtain ⟨draft, after, rfl, -⟩ := begun_records (begin_ok hbegin) rfl
        exact .fatalDraft hkind hload hinfeasible hbegin
  | @fatalDraft t q draft after hkind hload hinfeasible hbegin =>
    cases hprepare : prepare prereg draft (Projection.load prereg file) with
    | error e =>
      have hrun : (Stage.append draft after).run prereg (Projection.load prereg file)
          = (none, .error e) := by
        unfold Stage.run
        dsimp only
        rw [hprepare]
      rw [hrun]
      show Followed prereg kind file (file ++ []) _
      rw [append_nil]
      exact .ended rfl
    | ok prepared =>
      obtain ⟨q', fatal⟩ := prepared
      have hread := (prepare_ok.mp hprepare).2.1
      rw [hload] at hread
      cases hread
      have hrecord : FirstRecord prereg file (infeasibleCall t) q' draft after fatal :=
        ⟨hload, hbegin, hload ▸ hprepare⟩
      have hbegun := begin_ok hbegin
      obtain ⟨r, hadvance, happlied, -, hafter⟩ := hrecord.advances houtside rfl
      have hlegible : fatal.Legible :=
        (legible_of_call htimes hbegun rfl (prepare_ok.mp hprepare).2.2).mpr
          (infeasible_plain t (hgeneration q' hload))
      have hfinish : after = .finish := by
        obtain ⟨_, _, hdraft, -, hafter, -⟩ := begun_records hbegun rfl
        cases hdraft
        rcases hafter with hafter | ⟨hother, -⟩
        · exact hafter
        · cases hother
      rw [Stage.run_append hprepare, hadvance, hfinish]
      exact .failed hkind hload hinfeasible happlied (hafter hlegible) rfl

theorem others_end (houtside : outside.KeepsKeys) (htimes : ∀ t, UnbrokenText (outside.timeText t))
    (hgeneration : ∀ q, Projection.load prereg file = .ok q → UnbrokenText prereg.generationId)
    {Q : CallPlace → Prop} (hended : ∀ place, Q place → place.Ended)
    (hstage : ∀ f place, Followed prereg kind file f place →
      (stage.run prereg (Projection.load prereg f)).1 = none ∧
        Q (.ofResult (stage.run prereg (Projection.load prereg f)).2))
    (hrun : Runs.runFrom (TwoCalls.step prereg) w schedule = some w')
    (hfollowed : Followed prereg kind file w.file (w.place who))
    (hother : w.place (!who) = .inProgress stage) :
    Followed prereg kind file w'.file (w'.place who) ∧
      (w'.place (!who) = .inProgress stage ∨ Q (w'.place (!who))) := by
  refine TwoCalls.run_keeps (I := fun w => Followed prereg kind file w.file (w.place who) ∧
    (w.place (!who) = .inProgress stage ∨ Q (w.place (!who)))) ?_ ⟨hfollowed, Or.inl hother⟩ hrun
  intro w other next ⟨hfollowed, hother⟩ hplace
  rcases Bool.eq_or_eq_not other who with rfl | rfl
  · rw [hplace] at hfollowed
    rw [TwoCalls.turn_place_self, TwoCalls.turn_place_other]
    exact ⟨hfollowed.turn houtside htimes hgeneration, hother⟩
  · have hfirst : (w.turn prereg (!who) next).place who = w.place who := by
      have hsame : (w.turn prereg (!who) next).place (!!who) = w.place (!!who) :=
        TwoCalls.turn_place_other (!who) next
      rwa [Bool.not_not] at hsame
    rcases hother with hwaits | hdone
    · rw [hplace] at hwaits
      cases hwaits
      obtain ⟨hquiet, hend⟩ := hstage _ _ hfollowed
      rw [hfirst, (TwoCalls.turn_quiet hquiet).1, TwoCalls.turn_place_self]
      exact ⟨hfollowed, Or.inr hend⟩
    · have hnone := hended _ hdone
      rw [hplace] at hnone
      cases hnone

theorem Followed.read (hload : Projection.load prereg file = .ok q)
    (hrecorded : IsRecorded prereg q call) (h : Followed prereg kind file f place) :
    ∃ r, Projection.load prereg f = .ok r ∧ IsRecorded prereg r call := by
  cases h with
  | failed _ hload' _ happlied hafter _ =>
    rw [hload] at hload'
    cases hload'
    exact ⟨_, hafter, recorded_stays happlied rfl hrecorded⟩
  | _ => exact ⟨q, hload, hrecorded⟩

theorem Followed.unread {e : PyError} (hload : Projection.load prereg file = .error e)
    (h : Followed prereg kind file f place) : Projection.load prereg f = .error e := by
  cases h with
  | failed _ hload' _ _ _ _ =>
    rw [hload] at hload'
    cases hload'
  | _ => exact hload

/-- The second failure of a run that two calls have failed at once. -/
theorem both_fail (hrun : Runs.runFrom (TwoCalls.step prereg) w schedule = some w')
    (hfile : w.file = file) (hends : (w.place who).Ended)
    (hother : w.place (!who) = .inProgress (.append draft .finish)) :
    w'.place (!who) = .inProgress (.append draft .finish) ∨
      (∃ e, w'.place (!who) = .raised e) ∨ ∃ event, w'.file = file ++ [event] := by
  have hkeeps : (w'.place who).Ended ∧
      (w'.file = file ∧ w'.place (!who) = .inProgress (.append draft .finish) ∨
        (w'.place (!who)).Ended ∧ ((∃ e, w'.place (!who) = .raised e) ∨
          ∃ event, w'.file = file ++ [event])) := by
    refine TwoCalls.run_keeps (I := fun w => (w.place who).Ended ∧
      (w.file = file ∧ w.place (!who) = .inProgress (.append draft .finish) ∨
        (w.place (!who)).Ended ∧ ((∃ e, w.place (!who) = .raised e) ∨
          ∃ event, w.file = file ++ [event]))) ?_ ⟨hends, Or.inl ⟨hfile, hother⟩⟩ hrun
    intro w other stage ⟨hended, hother⟩ hplace
    rcases Bool.eq_or_eq_not other who with rfl | rfl
    · rw [hplace] at hended
      cases hended
    · have hfirst : (w.turn prereg (!who) stage).place who = w.place who := by
        have hsame : (w.turn prereg (!who) stage).place (!!who) = w.place (!!who) :=
          TwoCalls.turn_place_other (!who) stage
        rwa [Bool.not_not] at hsame
      rw [hfirst, TwoCalls.turn_place_self]
      refine ⟨hended, Or.inr ?_⟩
      rcases hother with ⟨hfile, hwaits⟩ | ⟨hdone, -⟩
      · rw [hplace] at hwaits
        cases hwaits
        show CallPlace.Ended _ ∧ (_ ∨ ∃ event, w.file ++ Option.toList _ = _)
        rw [hfile]
        cases hprepare : prepare prereg draft (Projection.load prereg file) with
        | error e =>
          have hraises : (Stage.append draft .finish).run prereg (Projection.load prereg file)
              = (none, .error e) := by
            unfold Stage.run
            dsimp only
            rw [hprepare]
          rw [hraises]
          exact ⟨rfl, Or.inl ⟨e, rfl⟩⟩
        | ok prepared =>
          rw [Stage.run_append hprepare]
          refine ⟨?_, Or.inr ⟨prepared.2, rfl⟩⟩
          cases prepared.1.advance prereg prepared.2 <;> rfl
      · rw [hplace] at hdone
        cases hdone
  rcases hkeeps with ⟨-, ⟨-, hwaits⟩ | ⟨-, hraised | hwritten⟩⟩
  · exact Or.inl hwaits
  · exact Or.inr (Or.inl hraised)
  · exact Or.inr (Or.inr hwritten)

theorem Followed.oneRecord (hevent : event.kind = some kind) (hended : place.Ended)
    (h : Followed prereg kind (file ++ [event]) f place) : OneRecord prereg kind file f := by
  refine ⟨event, hevent, ?_⟩
  cases h with
  | ended _ => exact Or.inl rfl
  | @failed _ q r fatal hkind hload hinfeasible happlied _ _ =>
    refine Or.inr ⟨hkind, q, fatal, hload, hinfeasible, happlied.kind_eq, ?_⟩
    rw [append_assoc]
    rfl
  | accounting | failing | fatalDraft => cases hended

theorem CallPlace.ended_of_raised (h : ∃ e, place = .raised e) : place.Ended := by
  obtain ⟨e, rfl⟩ := h
  rfl

theorem start_of_recorded (hr : Projection.load prereg f = .ok r)
    (hrecorded : IsRecorded prereg r call) :
    (¬ call.ExcludesPrediction → CallPlace.ofResult
        ((Stage.start call).run prereg (Projection.load prereg f)).2 = .returned) ∧
      (call.ExcludesPrediction → ∃ e, CallPlace.ofResult
        ((Stage.start call).run prereg (Projection.load prereg f)).2 = .raised e) := by
  have hrun : ((Stage.start call).run prereg (Projection.load prereg f)).2
      = (r.begin prereg call >>= fun next => .ok (Progress.ofOption r next)) := by
    rw [hr]
    rfl
  obtain ⟨hreturns, hraises⟩ := begin_of_recorded hrecorded
  rw [hrun]
  refine ⟨?_, ?_⟩
  · intro hno
    rw [hreturns hno]
    rfl
  · intro hexcludes
    obtain ⟨e, he⟩ := hraises hexcludes
    rw [he]
    exact ⟨e, rfl⟩

theorem append_raises
    (h : ∀ prepared, prepare prereg draft (Projection.load prereg f) ≠ .ok prepared) :
    ((Stage.append draft after).run prereg (Projection.load prereg f)).1 = none ∧
      ∃ e, CallPlace.ofResult
        ((Stage.append draft after).run prereg (Projection.load prereg f)).2 = .raised e := by
  cases hprepare : prepare prereg draft (Projection.load prereg f) with
  | ok prepared => exact absurd hprepare (h prepared)
  | error e =>
    unfold Stage.run
    dsimp only
    rw [hprepare]
    exact ⟨rfl, e, rfl⟩

/-- **A repeated call is recorded once** exactly when it comes after the append of the first, does
not exclude a case with a prediction, and its texts leave the line of its event whole. -/
theorem repeated_once_iff (houtside : outside.KeepsKeys)
    (htimes : ∀ t, UnbrokenText (outside.timeText t)) (hkind : call.recordedKind = some kind)
    {schedule : List Bool} {who : Bool}
    (hrun : Runs.runFrom (TwoCalls.step prereg) (TwoCalls.start file call) schedule = some w)
    (hended : ∀ other, (w.place other).Ended) (hfirst : w.first = some who) :
    RecordedOnce prereg kind file w who ↔
      OneAfterOther schedule ∧ ¬ call.ExcludesPrediction ∧ call.Plain prereg := by
  obtain ⟨p, draft, after, event, hrecord⟩ := firstRecord_of_first hkind hrun hfirst
  obtain ⟨q, hadvance, happlied, hrecorded, hafter⟩ := hrecord.advances houtside hkind
  have hbegun := begin_ok hrecord.begins
  have hlegible := legible_of_call htimes hbegun hkind (prepare_ok.mp hrecord.prepares).2.2
  rw [hlegible] at hafter
  obtain ⟨w₁, rest, hrest, hwritten, hother⟩ := opening hrecord hadvance hrun hfirst
  obtain ⟨_, _, hdraft, -, hfinish, -⟩ := begun_records hbegun hkind
  cases hdraft
  have hfollowed : Followed prereg kind (file ++ [event]) w₁.file (w₁.place who) := by
    rw [hwritten.file_eq, hwritten.place_eq]
    rcases hfinish with rfl | ⟨hexcluded, rfl⟩
    · exact .ended rfl
    · exact .accounting hexcluded
  have hplain : ∀ q, Projection.load prereg (file ++ [event]) = .ok q → call.Plain prereg := by
    intro q hload
    obtain ⟨_, _, htake⟩ := load_concat.mp hload
    exact hlegible.mp (take_ok.mp htake).1
  have hunread : ¬ call.Plain prereg →
      ∃ e, Projection.load prereg (file ++ [event]) = .error e := by
    intro hnot
    cases hload : Projection.load prereg (file ++ [event]) with
    | error e => exact ⟨e, rfl⟩
    | ok q => exact absurd (hplain q hload) hnot
  have hends : ∀ {P : Prop} {stage : Stage}, w.place (!who) = .inProgress stage ∨ P → P := by
    intro P stage hor
    refine hor.resolve_left ?_
    intro hwaits
    have hnone := hended (!who)
    rw [hwaits] at hnone
    cases hnone
  have hraised : (∃ e, w.place (!who) = .raised e) → ¬ RecordedOnce prereg kind file w who := by
    rintro ⟨e, he⟩ ⟨hreturned, -⟩
    rw [he] at hreturned
    cases hreturned
  -- the other call reads the file once more, and what it does then is the same for every file that
  -- the first call may have left
  have hother_raises : ∀ {stage : Stage}, w₁.place (!who) = .inProgress stage →
      (∀ f place, Followed prereg kind (file ++ [event]) f place →
        (stage.run prereg (Projection.load prereg f)).1 = none ∧
          ∃ e, CallPlace.ofResult (stage.run prereg (Projection.load prereg f)).2 = .raised e) →
        ¬ RecordedOnce prereg kind file w who := by
    intro stage hplace hstage
    exact hraised (hends (others_end houtside htimes (fun q hload => (hplain q hload).1)
      (fun _ => CallPlace.ended_of_raised) hstage hrest hfollowed hplace).2)
  rcases hother with ⟨hschedule, hstart⟩ | ⟨hschedule, hdrafted⟩
  · by_cases hcall : call.Plain prereg
    · by_cases hexcludes : call.ExcludesPrediction
      · refine iff_of_false (hother_raises hstart ?_) fun h => h.2.1 hexcludes
        intro f place hf
        obtain ⟨r, hr, hrecorded⟩ := hf.read (hafter hcall) hrecorded
        exact ⟨rfl, (start_of_recorded hr hrecorded).2 hexcludes⟩
      · refine iff_of_true ?_ ⟨hschedule, hexcludes, hcall⟩
        obtain ⟨hfollowed', hreturned⟩ := others_end (Q := fun place => place = .returned) houtside
          htimes (fun q hload => (hplain q hload).1) (fun _ he => congrArg CallPlace.stage he) (by
            intro f place hf
            obtain ⟨r, hr, hrecorded⟩ := hf.read (hafter hcall) hrecorded
            exact ⟨rfl, (start_of_recorded hr hrecorded).1 hexcludes⟩) hrest hfollowed hstart
        exact ⟨hends hreturned, hfollowed'.oneRecord happlied.kind_eq (hended who)⟩
    · obtain ⟨e, he⟩ := hunread hcall
      refine iff_of_false (hother_raises hstart ?_) fun h => hcall h.2.2
      intro f place hf
      rw [hf.unread he]
      exact ⟨rfl, e, rfl⟩
  · refine iff_of_false ?_ fun h => hschedule h.1
    by_cases hfail : kind = .generationFatal
    · subst hfail
      obtain ⟨hfile, hplace⟩ := hfollowed.of_ended (by decide)
      have hfin : after = .finish := hfinish.resolve_right fun h => by cases h.1
      subst hfin
      rcases hends (both_fail hrest hfile hplace hdrafted) with hraises | ⟨second, hsecond⟩
      · exact hraised hraises
      · rintro ⟨-, first, -, honce | ⟨hexcluded, -⟩⟩
        · have hlength := congrArg List.length (hsecond.symm.trans honce)
          simp only [length_append, length_cons, length_nil] at hlength
          omega
        · cases hexcluded
    · refine hother_raises hdrafted ?_
      intro f place hf
      refine append_raises ?_
      intro prepared hprepare
      obtain ⟨-, hread, hagain⟩ := prepare_ok.mp hprepare
      by_cases hcall : call.Plain prereg
      · obtain ⟨r, hr, hrecorded⟩ := hf.read (hafter hcall) hrecorded
        rw [hread] at hr
        cases hr
        exact absurd hagain (nextEvent_of_recorded houtside hbegun hkind hfail hrecorded)
      · obtain ⟨e, he⟩ := hunread hcall
        rw [hf.unread he] at hread
        cases hread

end Repeats

/-! ## Two runs -/

def lateExclusion : CoordinatorCall := .recordCaseExcluded paperCase "late" (some "prediction")

def repeatOf (actions : List LongRunAction) (call : CoordinatorCall) (schedule : List Bool) :
    Option (List (LongRunEvent paperLongRun) × TwoCalls paperLongRun) := do
  let found ← fileOf actions
  let w ← Runs.runFrom (TwoCalls.step paperPreregistration) (TwoCalls.start found.1 call) schedule
  return (found.1, w)

theorem repeatOf_run {actions : List LongRunAction} {call : CoordinatorCall} {schedule : List Bool}
    {file : List (LongRunEvent paperLongRun)} {w : TwoCalls paperLongRun}
    (h : repeatOf actions call schedule = some (file, w)) :
    (∃ world, Runs.runFrom (LongRunWorld.step paperPreregistration)
        (LongRunWorld.fresh (eventList paperLongRun paperPreregistration)) actions = some world ∧
      world.file = file) ∧
    Runs.runFrom (TwoCalls.step paperPreregistration) (TwoCalls.start file call) schedule
      = some w := by
  unfold repeatOf at h
  simp only [bind_eq_bind, bind_eq_some_iff, Option.pure_def, Option.some.injEq,
    Prod.mk.injEq] at h
  obtain ⟨⟨file', p⟩, hfound, w', hw, rfl, rfl⟩ := h
  obtain ⟨world, hworld, hfile, -⟩ := fileOf_run hfound
  exact ⟨⟨world, hworld, hfile⟩, hw⟩

/-- The exclusion of a late prediction returns, and raises when it is repeated. -/
theorem repeated_exclusion_raises :
    ¬ ∀ (outside : LongRunOutside) (prereg : LongRunPreregistration) (actions : List LongRunAction)
      (world : LongRunWorld (eventList outside prereg)) (call : CoordinatorCall)
      (kind : LongRunEventType) (schedule : List Bool) (w : TwoCalls outside) (who : Bool),
      Runs.runFrom (LongRunWorld.step prereg) (LongRunWorld.fresh (eventList outside prereg)) actions
        = some world → call.recordedKind = some kind →
      Runs.runFrom (TwoCalls.step prereg) (TwoCalls.start world.file call) schedule = some w →
      (∀ other, (w.place other).Ended) → w.first = some who →
        RecordedOnce prereg kind world.file w who := by
  intro h
  have hends : (repeatOf paperStart lateExclusion [false, false, false, true]).map (fun found =>
      (found.2.first, [true, false].map fun who => (found.2.place who).stage.isNone,
        (found.2.place true).error.isSome)) = some (some false, [true, true], true) := by
    decide +kernel
  obtain ⟨⟨file, w⟩, hfound, hw⟩ := map_eq_some_iff.mp hends
  obtain ⟨⟨world, hworld, rfl⟩, hrun⟩ := repeatOf_run hfound
  simp only [map_cons, map_nil, Prod.mk.injEq, List.cons.injEq, and_true,
    isNone_iff_eq_none] at hw
  obtain ⟨hfirst, ⟨htrue, hfalse⟩, hraised⟩ := hw
  have hended : ∀ other, (w.place other).Ended := by
    intro other
    cases other
    · exact hfalse
    · exact htrue
  obtain ⟨hreturned, -⟩ := h paperLongRun paperPreregistration paperStart world lateExclusion
    .caseExcluded _ w false hworld rfl hrun hended hfirst
  change w.place true = .returned at hreturned
  rw [hreturned] at hraised
  cases hraised

theorem paperLongRun_times (t : Timestamp) : UnbrokenText (paperLongRun.timeText t) := by
  have hepoch : UnbrokenText "1970-01-01T00:00:00Z" := by decide +kernel
  show UnbrokenText (if t = 0 then "1970-01-01T00:00:00Z" else String.ofList (integerText t))
  split
  · exact hepoch
  · exact unbrokenText_integer t

/-- A prediction is recorded by two processes, one after the other. -/
theorem prediction_recorded_once : ∃ (file : List (LongRunEvent paperLongRun))
    (w : TwoCalls paperLongRun), Runs.runFrom (TwoCalls.step paperPreregistration)
      (TwoCalls.start file (.recordCasePending paperCase "prediction")) [false, false, true]
        = some w ∧
    RecordedOnce paperPreregistration .casePending file w false := by
  have hends : (repeatOf paperStart (.recordCasePending paperCase "prediction")
      [false, false, true]).map (fun found =>
        (found.2.first, [true, false].map fun who => (found.2.place who).stage.isNone))
      = some (some false, [true, true]) := by
    decide +kernel
  obtain ⟨⟨file, w⟩, hfound, hw⟩ := map_eq_some_iff.mp hends
  obtain ⟨-, hrun⟩ := repeatOf_run hfound
  simp only [map_cons, map_nil, Prod.mk.injEq, List.cons.injEq, and_true,
    isNone_iff_eq_none] at hw
  obtain ⟨hfirst, htrue, hfalse⟩ := hw
  have hended : ∀ other, (w.place other).Ended := by
    intro other
    cases other
    · exact hfalse
    · exact htrue
  have hplain : (CoordinatorCall.recordCasePending paperCase "prediction").Plain
      paperPreregistration :=
    ⟨(by decide +kernel : UnbrokenText "generation"),
      (by decide +kernel : ∀ s ∈ ["prediction"], UnbrokenText s)⟩
  exact ⟨file, w, hrun, (repeated_once_iff paperLongRun_keepsKeys paperLongRun_times rfl hrun hended
    hfirst).mpr ⟨rfl, id, hplain⟩⟩

end AdvisorAI
