import AdvisorAI.Contracts.Artifacts
import AdvisorAI.Execution.OmsRuns

/-!
# The identity of orders

Three places ask whether two orders are the same: `canonical_hash`, the payload
`OrderManager.create` compares, and the fingerprint of the paper venue. All
three use the JSON without the order's own identifier and creation time, which
still holds the identifier and the creation time of the instrument.
`logical_identity_iff` says for each of them when it answers as the domain
fields do.
-/

namespace AdvisorAI

open Lib Json OrderJournal Prog

/-! ## Orders as artifacts -/

theorem OrderState.value_injective : Function.Injective OrderState.value := by
  have hall : ∀ a b : OrderState, a.value = b.value → a = b := by decide
  exact fun a b => hall a b

/-- The fields of `InstrumentIdentity`. -/
def instrumentFields : Fields :=
  .field "canonical_id" .text <| .field "asset_class" .text <|
  .optional "venue" .text <| .optional "venue_symbol" .text <|
  .optional "base_asset" .text <| .optional "quote_asset" .text <|
  .optional "valid_from" .time <| .optional "valid_to" .time .nil

/-- The fields of `Order`. -/
def orderFields : Fields :=
  .field "parent_intent_id" .uuid <| .field "execution_plan_id" .uuid <|
  .field "instrument" (.artifact instrumentFields) <| .field "side" .text <|
  .field "quantity" .decimal <| .field "order_type" .text <| .optional "price" .decimal <|
  .field "time_in_force" .text <| .field "idempotency_key" .text <| .field "state" .text .nil

def InstrumentIdentity.artifact (i : InstrumentIdentity) : Artifact instrumentFields where
  artifactId := i.artifactId
  createdAt := i.createdAt
  fields := (i.canonicalId, i.assetClass.value, i.venue, i.venueSymbol, i.baseAsset, i.quoteAsset,
    i.validFrom, i.validTo, ())

def Order.artifact (o : Order) : Artifact orderFields where
  artifactId := o.artifactId
  createdAt := o.createdAt
  fields := (o.parentIntentId, o.executionPlanId, o.instrument.artifact, o.side.value, o.quantity,
    o.orderType, o.price, o.timeInForce, o.idempotencyKey, o.state.value, ())

/-- The fields of an instrument in plain types. -/
abbrev InstrumentTuple :=
  String × String × Option String × Option String × Option String × Option String
    × Option Timestamp × Option Timestamp × Unit

abbrev OrderTuple :=
  UUID × UUID × Artifact instrumentFields × String × Decimal × String × Option Decimal × String
    × String × String × Unit

theorem InstrumentIdentity.artifact_injective : Function.Injective InstrumentIdentity.artifact := by
  intro i j h
  have hid : i.artifactId = j.artifactId := congrArg ArtifactOf.artifactId h
  have htime : i.createdAt = j.createdAt := congrArg ArtifactOf.createdAt h
  have hfields : ((i.canonicalId, i.assetClass.value, i.venue, i.venueSymbol, i.baseAsset,
        i.quoteAsset, i.validFrom, i.validTo, ()) : InstrumentTuple)
      = (j.canonicalId, j.assetClass.value, j.venue, j.venueSymbol, j.baseAsset, j.quoteAsset,
        j.validFrom, j.validTo, ()) := congrArg ArtifactOf.fields h
  simp only [Prod.mk.injEq] at hfields
  obtain ⟨hcanonical, hclass, hvenue, hsymbol, hbase, hquote, hfrom, hto, -⟩ := hfields
  have hclass := AssetClass.value_injective hclass
  cases i
  cases j
  subst hid htime hcanonical hclass hvenue hsymbol hbase hquote hfrom hto
  rfl

theorem Order.artifact_fields_iff {o p : Order} :
    o.artifact.fields = p.artifact.fields ↔ o.logicalPayload = p.logicalPayload := by
  constructor
  · intro h
    have hfields : ((o.parentIntentId, o.executionPlanId, o.instrument.artifact, o.side.value,
          o.quantity, o.orderType, o.price, o.timeInForce, o.idempotencyKey, o.state.value, ()) :
          OrderTuple)
        = (p.parentIntentId, p.executionPlanId, p.instrument.artifact, p.side.value, p.quantity,
          p.orderType, p.price, p.timeInForce, p.idempotencyKey, p.state.value, ()) := h
    simp only [Prod.mk.injEq] at hfields
    obtain ⟨hparent, hplan, hinstrument, hside, hquantity, htype, hprice, htif, hkey, hstate, -⟩ :=
      hfields
    have hinstrument := InstrumentIdentity.artifact_injective hinstrument
    have hside := Side.value_injective hside
    have hstate := OrderState.value_injective hstate
    cases o
    cases p
    subst hparent hplan hinstrument hside hquantity htype hprice htif hkey hstate
    rfl
  · intro h
    -- the fields do not read the identity
    show o.logicalPayload.artifact.fields = p.logicalPayload.artifact.fields
    rw [h]

/-! ## The three comparisons -/

/-- The fingerprint under which the paper venue remembers a submission. -/
def submissionFingerprint {δ : Type} (text : ScalarText) (sha256 : List Char → δ) (o : Order) : δ :=
  sha256 (logicalJson text o.artifact)

/-- `create` with `o` returns the stored order `p`. -/
def CreateAnswers (w : OmsWorld) (env : Surroundings) (o p : Order) : Prop :=
  (Prog.run (create env o) w).1 = .ok p

/-- No other order is stored under the artifact id of `o`. -/
def OwnArtifactId (w : OmsWorld) (o p : Order) : Prop :=
  ∀ q, w.manager.orders.get o.artifactId = some q → q = p

variable {w : OmsWorld} {env : Surroundings} {o p : Order}

theorem stored_eq_of_key_eq {c : OrderJournal} (hrep : Represents w c) (hs : Sound c)
    (hp : w.manager.orders.get p.artifactId = some p) {q : Order}
    (hq : q ∈ w.manager.orders.values) (hkey : q.idempotencyKey = p.idempotencyKey) : q = p := by
  rw [hrep.memory] at hp hq
  obtain ⟨i, hi⟩ := Dict.mem_values_iff.mp hq
  obtain ⟨hqid, t, ht⟩ := hs.projects.orderLogged i q hi
  obtain ⟨-, u, hu⟩ := hs.projects.orderLogged _ p hp
  have hid : q.artifactId = p.artifactId := hs.wellFormed.clients t q u p ht hu hkey
  rw [← hqid, hid, hp] at hi
  exact (Option.some.inj hi).symm

/-- What `create` makes of an order when the bus takes its events: the stored one
when the payloads agree. -/
theorem create_answers_iff {adapter : Adapter} {acts : List OmsAction}
    (hrun : omsRun (.init adapter) acts = some w) (htakes : ∀ envelope e, ¬env.Refuses envelope e)
    (hp : w.manager.orders.get p.artifactId = some p) :
    CreateAnswers w env o p ↔ o.logicalPayload = p.logicalPayload ∧ OwnArtifactId w o p := by
  obtain ⟨c, hrep, hs⟩ := run_sound hrun
  -- equal payloads bring equal idempotency keys
  have hkeyOf : ∀ {q r : Order}, q.logicalPayload = r.logicalPayload →
      q.idempotencyKey = r.idempotencyKey := by
    intro q r h
    show q.logicalPayload.idempotencyKey = r.logicalPayload.idempotencyKey
    rw [h]
  have hpvalue : p ∈ w.manager.orders.values := Dict.mem_values_iff.mpr ⟨_, hp⟩
  -- what the call returns on each of its paths
  have hwp : Prog.wp (create env o)
      (fun a _ => a = p ↔ o.logicalPayload = p.logicalPayload ∧ OwnArtifactId w o p)
      (fun e _ => e ≠ .crashed → ¬(o.logicalPayload = p.logicalPayload ∧ OwnArtifactId w o p))
      w := by
    have hcrash : Stop.crashed ≠ (Stop.crashed : Stop PyError) →
        ¬(o.logicalPayload = p.logicalPayload ∧ OwnArtifactId w o p) :=
      fun h => absurd rfl h
    refine wp_bind (wp_read ?_)
    cases hget : w.manager.orders.get o.artifactId with
    | some q =>
      refine wp_ite ?_ ?_
      · intro hne
        apply wp_raise
        intro _ ⟨hpayload, hown⟩
        rw [hown q hget] at hne
        exact hne hpayload.symm
      · intro hsame
        have hsame := (not_not.mp hsame).symm
        refine wp_bind (wp_republishKey hcrash (fun _ e _ hr => absurd hr (htakes _ e))
          fun _ _ => wp_pure ?_)
        constructor
        · intro heq
          refine ⟨heq ▸ hsame, ?_⟩
          intro r hr
          rw [hget] at hr
          cases hr
          exact heq
        · intro ⟨_, hown⟩
          exact hown q hget
    | none =>
      have hown : OwnArtifactId w o p := by
        intro r hr
        rw [hget] at hr
        cases hr
      refine wp_bind (wp_read ?_)
      cases hfind : w.manager.orders.values.find? fun prior =>
          prior.idempotencyKey = o.idempotencyKey with
      | some q =>
        have hqkey : q.idempotencyKey = o.idempotencyKey := by
          simpa using List.find?_some hfind
        have hqvalue := List.mem_of_find?_eq_some hfind
        have hstored : o.logicalPayload = p.logicalPayload → q = p := fun hpayload =>
          stored_eq_of_key_eq hrep hs hp hqvalue (hqkey.trans (hkeyOf hpayload))
        refine wp_ite ?_ ?_
        · intro hne
          apply wp_raise
          intro _ ⟨hpayload, _⟩
          rw [hstored hpayload] at hne
          exact hne hpayload.symm
        · intro hsame
          have hsame := (not_not.mp hsame).symm
          refine wp_bind (wp_republishKey hcrash (fun _ e _ hr => absurd hr (htakes _ e))
            fun _ _ => wp_pure ?_)
          exact ⟨fun heq => ⟨heq ▸ hsame, hown⟩, fun h => hstored h.1⟩
      | none =>
        have hpayload : o.logicalPayload ≠ p.logicalPayload := by
          intro h
          have hnone := List.find?_eq_none.mp hfind p hpvalue
          exact hnone (decide_eq_true (hkeyOf h).symm)
        have hne : o ≠ p := fun h => hpayload (congrArg Order.logicalPayload h)
        have hstop : ∀ e : Stop PyError, e ≠ .crashed →
            ¬(o.logicalPayload = p.logicalPayload ∧ OwnArtifactId w o p) :=
          fun _ _ h => hpayload h.1
        -- a new order: whatever happens, `p` is not what comes back
        refine wp_bind (wp_atomic (hstop _) ?_)
        dsimp only
        rcases SqliteLedgers.append w.orderEvents _ with ⟨stored | e, events⟩
        · exact hstop _
        · refine wp_bind (wp_atomic (hstop _) ?_)
          cases bindOrder w.knownOrderIds o with
          | error e => exact hstop _
          | ok known =>
            refine wp_bind (wp_updateManager (hstop _) ?_)
            refine wp_bind (wp_publishEvent (hstop _) (fun e hr => absurd hr (htakes _ e))
              fun _ _ => wp_pure ?_)
            exact ⟨fun heq => absurd heq hne, fun h => absurd h.1 hpayload⟩
  unfold CreateAnswers
  rcases run_of_wp hwp with ⟨a, s', ha, hiff⟩ | ⟨e, s', he, hno⟩
  · rw [ha, ← hiff]
    exact ⟨fun h => Except.ok.inj h, fun h => congrArg Except.ok h⟩
  · rw [he]
    exact ⟨fun h => (nomatch h), fun h => absurd h (hno (by simp))⟩

/-- **Logical identity.** Hash, `create` and fingerprint answer as the domain
fields do exactly when artifacts equal in their fields hold inner artifacts of
the same identity and decimals of the same spelling; `create` also needs the
artifact id of the order to be no other order's. -/
theorem logical_identity_iff {δ : Type} (text : ScalarText) {sha256 : List Char → δ}
    (hsha : Function.Injective sha256) :
    (∀ (fields : Fields) (a b : Artifact fields),
      ((SameDomain a b ↔ canonicalHash text sha256 a = canonicalHash text sha256 b)
        ↔ (SameDomain a b → NestedAgree a b))) ∧
    (∀ (adapter : Adapter) (acts : List OmsAction) (w : OmsWorld) (env : Surroundings)
      (o p : Order), omsRun (.init adapter) acts = some w →
      (∀ envelope e, ¬env.Refuses envelope e) → w.manager.orders.get p.artifactId = some p →
      ((SameDomain o.artifact p.artifact → CreateAnswers w env o p)
        ↔ (SameDomain o.artifact p.artifact →
            NestedAgree o.artifact p.artifact ∧ OwnArtifactId w o p))) ∧
    (∀ o p : Order, ((SameDomain o.artifact p.artifact →
          submissionFingerprint text sha256 o = submissionFingerprint text sha256 p)
        ↔ (SameDomain o.artifact p.artifact → NestedAgree o.artifact p.artifact))) := by
  refine ⟨?_, ?_, ?_⟩
  · intro fields a b
    rw [canonicalHash_eq_iff hsha]
    constructor
    · intro h hsame
      exact (h.mp hsame).2
    · intro h
      exact ⟨fun hsame => ⟨hsame, h hsame⟩, fun hboth => hboth.1⟩
  · intro adapter acts w env o p hrun htakes hp
    rw [create_answers_iff hrun htakes hp, ← Order.artifact_fields_iff, ← sameRecord_and_agree]
    constructor
    · intro h hsame
      obtain ⟨⟨-, hagree⟩, hown⟩ := h hsame
      exact ⟨hagree, hown⟩
    · intro h hsame
      obtain ⟨hagree, hown⟩ := h hsame
      exact ⟨⟨hsame, hagree⟩, hown⟩
  · intro o p
    -- the fingerprint is computed as the hash is
    have hfingerprint : submissionFingerprint text sha256 o = submissionFingerprint text sha256 p
        ↔ SameDomain o.artifact p.artifact ∧ NestedAgree o.artifact p.artifact :=
      canonicalHash_eq_iff hsha
    rw [hfingerprint]
    constructor
    · intro h hsame
      exact (h hsame).2
    · intro h hsame
      exact ⟨hsame, h hsame⟩

/-! ## The paper order, rebuilt -/

def exponentText (mark : Char) (i : Int) : List Char :=
  if i = 0 then [] else mark :: integerText i

theorem exponentText_injective {mark : Char} : Function.Injective (exponentText mark) := by
  intro i j h
  unfold exponentText at h
  split at h <;> split at h
  · next hi hj => rw [hi, hj]
  · cases h
  · cases h
  · exact integerText_valueText.delimited.injective (List.cons.inj h).2

theorem exponentText_endsNumber {mark : Char} (hmark : mark.isDigit = false) (i : Int) :
    EndsNumber (exponentText mark i) := by
  unfold exponentText
  split
  · intro c hc
    cases hc
  · exact endsNumber_cons hmark

def paperText : ScalarText where
  decimal d := String.ofList ((if d.negative then ['-'] else []) ++
    (Nat.toDigits 10 d.digits ++ exponentText 'E' d.exponent))
  time t := String.ofList ("1970-01-01T00:00:00Z".toList ++ exponentText '+' t)
  decimal_injective := by
    have hsplit : ∀ (m n : Nat) (i j : Int), Nat.toDigits 10 m ++ exponentText 'E' i
        = Nat.toDigits 10 n ++ exponentText 'E' j → m = n ∧ i = j := by
      intro m n i j h
      obtain ⟨hdigits, hrest⟩ := digits_inj (exponentText_endsNumber (by decide) _)
        (exponentText_endsNumber (by decide) _) h
      exact ⟨hdigits, exponentText_injective hrest⟩
    -- a digit is no sign
    have hsign : ∀ (n : Nat) (x y : List Char), '-' :: x ≠ Nat.toDigits 10 n ++ y := by
      intro n x y h
      cases hn : Nat.toDigits 10 n with
      | nil => exact absurd hn (Nat.toDigits_ne_nil)
      | cons c rest =>
        have hc : c.isDigit = true :=
          Nat.isDigit_of_mem_toDigits (by decide) (by decide) (hn ▸ List.mem_cons_self)
        rw [hn] at h
        rw [← (List.cons.inj h).1] at hc
        exact absurd hc (by decide)
    intro d e h
    have h := String.ofList_inj.mp h
    obtain ⟨dn, dd, de⟩ := d
    obtain ⟨en, ed, ee⟩ := e
    cases dn <;> cases en
    · obtain ⟨rfl, rfl⟩ := hsplit dd ed de ee h
      rfl
    · exact absurd h.symm (hsign dd _ _)
    · exact absurd h (hsign ed _ _)
    · obtain ⟨rfl, rfl⟩ := hsplit dd ed de ee (List.cons.inj h).2
      rfl
  time_injective := by
    intro s t h
    exact exponentText_injective (List.append_cancel_left (String.ofList_inj.mp h))

def paperOrderAgain : Order := { paperOrder .created with artifactId := 7, createdAt := 5 }

def paperOrderRebuilt : Order :=
  { paperOrderAgain with instrument := { paperInstrument with artifactId := 101 } }

/-- The paper order built once more is the same order to all three. -/
theorem logical_identity_paper :
    canonicalHash paperText id paperOrderAgain.artifact
        = canonicalHash paperText id (paperOrder .created).artifact ∧
    (∃ w, omsRun (.init .paper) [paperCall (.create (paperOrder .created))] = some w ∧
      CreateAnswers w (.quiet 0) paperOrderAgain (paperOrder .created)) ∧
    submissionFingerprint paperText id paperOrderAgain
        = submissionFingerprint paperText id (paperOrder .created) := by
  obtain ⟨hash, create, fingerprint⟩ := logical_identity_iff paperText
    (Function.injective_id : Function.Injective (id : List Char → List Char))
  have hboth : SameDomain paperOrderAgain.artifact (paperOrder .created).artifact ∧
      NestedAgree paperOrderAgain.artifact (paperOrder .created).artifact :=
    (sameRecord_and_agree orderFields _ _).mpr rfl
  obtain ⟨hsame, hagree⟩ := hboth
  refine ⟨((hash _ _ _).mpr fun _ => hagree).mp hsame, ?_,
    (fingerprint _ _).mpr (fun _ => hagree) hsame⟩
  have hrun : (omsRun (.init .paper) [paperCall (.create (paperOrder .created))]).any (fun w =>
      w.manager.orders.get 1 = some (paperOrder .created) ∧ w.manager.orders.get 7 = none)
      = true := by
    decide +kernel
  obtain ⟨w, hw, hfacts⟩ := (Option.any_eq_true _ _).mp hrun
  obtain ⟨hp, hfree⟩ := of_decide_eq_true hfacts
  have htakes : ∀ envelope e, ¬(Surroundings.quiet 0).Refuses envelope e := by
    intro envelope e ⟨publish, hbus, _⟩
    cases hbus
  have hown : OwnArtifactId w paperOrderAgain (paperOrder .created) := by
    intro q hq
    have hnone : w.manager.orders.get paperOrderAgain.artifactId = none := hfree
    rw [hnone] at hq
    cases hq
  exact ⟨w, hw, (create .paper _ w _ _ _ hw htakes hp).mpr (fun _ => ⟨hagree, hown⟩) hsame⟩

/-- With the instrument built once more, it is another order to all three. -/
theorem rebuilt_instrument_is_another :
    SameDomain paperOrderRebuilt.artifact (paperOrder .created).artifact ∧
    canonicalHash paperText id paperOrderRebuilt.artifact
        ≠ canonicalHash paperText id (paperOrder .created).artifact ∧
    (∃ w, omsRun (.init .paper) [paperCall (.create (paperOrder .created))] = some w ∧
      ¬CreateAnswers w (.quiet 0) paperOrderRebuilt (paperOrder .created)) ∧
    submissionFingerprint paperText id paperOrderRebuilt
        ≠ submissionFingerprint paperText id (paperOrder .created) := by
  have hdiffer : paperOrderRebuilt.artifact.fields ≠ (paperOrder .created).artifact.fields := by
    intro h
    have hpayload := Order.artifact_fields_iff.mp h
    have hid : (101 : UUID) = 100 := congrArg (fun o => o.instrument.artifactId) hpayload
    exact absurd hid (by decide)
  have hjson : logicalJson paperText paperOrderRebuilt.artifact
      ≠ logicalJson paperText (paperOrder .created).artifact :=
    fun h => hdiffer (logicalJson_eq_iff.mp h)
  refine ⟨?_, hjson, ?_, hjson⟩
  · -- every field is the same or has the same fields
    have hboth := (sameRecord_and_agree orderFields (paperOrder .created).artifact.fields _).mpr rfl
    exact hboth.1
  · have hrun : (omsRun (.init .paper) [paperCall (.create (paperOrder .created))]).any (fun w =>
        (Prog.run (create (.quiet 0) paperOrderRebuilt) w).1 ≠ .ok (paperOrder .created))
        = true := by
      decide +kernel
    obtain ⟨w, hw, hraises⟩ := (Option.any_eq_true _ _).mp hrun
    have hdiffers : (Prog.run (create (.quiet 0) paperOrderRebuilt) w).1
        ≠ .ok (paperOrder .created) := of_decide_eq_true hraises
    exact ⟨w, hw, hdiffers⟩

end AdvisorAI
