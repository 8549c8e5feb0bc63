import AdvisorAI.Contracts.Core
import AdvisorAI.Lib.Checks
import AdvisorAI.Lib.Dict

/-!
# The feature graph

`compute` evaluates the requested features and what they depend on, and keeps the values among the
inputs. A dependency that is there already is not evaluated: what is supplied for a feature stands
for it until the feature is requested itself. `computed_alike` says where that cannot be seen.
-/

namespace AdvisorAI

open Lib Dict Option
open List hiding after

variable {ν : Type}

structure FeatureNode (ν : Type) where
  name : String
  dependencies : List String
  compute : Dict String ν → Except PyError ν
  version : String

structure FeatureGraph (ν : Type) where
  nodes : Dict String (FeatureNode ν)

namespace FeatureGraph

variable (g : FeatureGraph ν)

/-- The values so far, and the features that were visited. -/
structure Evaluation (ν : Type) where
  values : Dict String ν
  visited : List String

/-- The features that are not on the way to the present one. -/
def remaining (visiting : List String) : ℕ := (g.nodes.keys.filter fun n => n ∉ visiting).length

variable {visiting dependencies requested visited visited' : List String} {name : String}

theorem remaining_lt (h : name ∉ visiting) {node : FeatureNode ν}
    (hnode : g.nodes.get name = some node) :
    g.remaining (name :: visiting) < g.remaining visiting := by
  have hmem : name ∈ g.nodes.keys.filter fun n => n ∉ visiting :=
    mem_filter.mpr ⟨mem_keys_iff.mpr ⟨node, hnode⟩, decide_eq_true h⟩
  have hsplit : (g.nodes.keys.filter fun n => n ∉ name :: visiting)
      = (g.nodes.keys.filter fun n => n ∉ visiting).filter fun n => n ≠ name := by
    rw [List.filter_filter]
    refine filter_congr ?_
    intro n _
    simp [not_or]
  unfold remaining
  rw [hsplit]
  exact length_filter_lt_length_iff_exists.mpr ⟨name, hmem, by simp⟩

mutual

/-- `visit`, on the way from the features of `visiting`. -/
def visit (visiting : List String) (name : String) (e : Evaluation ν) :
    Except PyError (Evaluation ν) :=
  if name ∈ e.visited then .ok e
  else if _hvisiting : name ∈ visiting then .error (valueError "feature dependency cycle")
  else
    match _hnode : g.nodes.get name with
    | none => .error (valueError ("unknown feature dependency " ++ pyRepr name))
    | some node => do
      let e ← visitMissing (name :: visiting) node.dependencies e
      let value ← node.compute e.values
      return ⟨e.values.set name value, name :: e.visited⟩
termination_by (g.remaining visiting, 0)
decreasing_by exact .left _ _ (g.remaining_lt _hvisiting _hnode)

/-- The loop over the dependencies of a feature. -/
def visitMissing (visiting : List String) (dependencies : List String) (e : Evaluation ν) :
    Except PyError (Evaluation ν) :=
  match dependencies with
  | [] => .ok e
  | dependency :: rest => do
    let e ← (if e.values.get dependency = none then visit visiting dependency e else .ok e)
    visitMissing visiting rest e
termination_by (g.remaining visiting, dependencies.length + 1)
decreasing_by
  · exact .right _ (Nat.succ_pos _)
  · exact .right _ (Nat.lt_succ_self _)

end

/-- `{name: values[name] for name in normalized_requested}`. -/
def picked (values : Dict String ν) (requested : List String) : Except PyError (Dict String ν) :=
  requested.foldlM (fun d name => match values.get name with
    | some value => .ok (d.set name value)
    | none => .error ⟨"KeyError", pyRepr name⟩) Dict.empty

def compute (requested : List String) (inputs : Dict String ν) :
    Except PyError (Dict String ν) := do
  let requested := requested.map strip
  require (requested ≠ [] ∧ "" ∉ requested)
    (valueError "feature requests must contain named features")
  require requested.Nodup (valueError "feature requests must be unique")
  let e ← requested.foldlM (fun e name => g.visit [] name e) ⟨inputs, []⟩
  picked e.values requested

/-! ## What a feature is worth -/

def IsDependency (d : String) : Prop :=
  ∃ name node, g.nodes.get name = some node ∧ d ∈ node.dependencies

/-- The features read what they declare, and nothing else. -/
def ReadsDeclared : Prop :=
  ∀ name node, g.nodes.get name = some node → ∀ values values' : Dict String ν,
    (∀ d ∈ node.dependencies, values.get d = values'.get d) →
    node.compute values = node.compute values'

/-- The value of a feature over inputs: its dependencies have the values that were supplied for
them, or their own. -/
inductive Value (inputs : Dict String ν) : String → ν → Prop where
  | feature {name : String} {node : FeatureNode ν} {values : Dict String ν} {value : ν}
      (hnode : g.nodes.get name = some node)
      (hpresent : ∀ d ∈ node.dependencies, values.get d ≠ none)
      (hsupplied : ∀ d ∈ node.dependencies, ∀ w, inputs.get d = some w → values.get d = some w)
      (hmade : ∀ d ∈ node.dependencies, ∀ w, values.get d = some w → inputs.get d = none →
        Value inputs d w)
      (hcompute : node.compute values = .ok value) : Value inputs name value

variable {g} {inputs inputs' : Dict String ν}

theorem Value.unique (hreads : g.ReadsDeclared)
    (hagree : ∀ d, g.IsDependency d → inputs.get d = inputs'.get d) {v v' : ν}
    (h : g.Value inputs name v) (h' : g.Value inputs' name v') : v = v' := by
  induction h generalizing v' with
  | feature hnode hpresent hsupplied _ hcompute ih =>
    obtain ⟨hnode', hpresent', hsupplied', hmade', hcompute'⟩ := h'
    cases hnode.symm.trans hnode'
    refine Except.ok.inj (hcompute.symm.trans ((hreads _ _ hnode _ _ ?_).trans hcompute'))
    intro d hd
    obtain ⟨w, hw⟩ := ne_none_iff_exists'.mp (hpresent d hd)
    obtain ⟨w', hw'⟩ := ne_none_iff_exists'.mp (hpresent' d hd)
    have hinputs := hagree d ⟨_, _, hnode, hd⟩
    cases hgiven : inputs.get d with
    | some u =>
      rw [hsupplied d hd u hgiven, hsupplied' d hd u (hinputs.symm.trans hgiven)]
    | none =>
      rw [hw, hw', ih d hd w hw hgiven (hmade' d hd w' hw' (hinputs.symm.trans hgiven))]

/-! ## The walk -/

/-- What is depended on has the value that was supplied, or its own, and so has what was visited. -/
structure Sound (g : FeatureGraph ν) (inputs : Dict String ν) (e : Evaluation ν) : Prop where
  resolved : ∀ d, g.IsDependency d → ∀ v, e.values.get d = some v →
    inputs.get d = some v ∨ inputs.get d = none ∧ g.Value inputs d v
  visited : ∀ n ∈ e.visited, ∃ v, e.values.get n = some v ∧ g.Value inputs n v
  kept : ∀ d, inputs.get d ≠ none → e.values.get d ≠ none

/-- A visit of a feature that nobody supplies to those that depend on it. -/
def VisitSound (g : FeatureGraph ν) (inputs : Dict String ν) (visiting : List String) : Prop :=
  ∀ name e e', g.Sound inputs e → (g.IsDependency name → inputs.get name = none) →
    g.visit visiting name e = .ok e' → g.Sound inputs e' ∧ name ∈ e'.visited ∧
      (∀ n ∈ e.visited, n ∈ e'.visited) ∧ ∀ d, e.values.get d ≠ none → e'.values.get d ≠ none

theorem visitMissing_sound (hvisit : g.VisitSound inputs visiting)
    (hdeps : ∀ d ∈ dependencies, g.IsDependency d) {e e' : Evaluation ν}
    (hsound : g.Sound inputs e) (h : g.visitMissing visiting dependencies e = .ok e') :
    g.Sound inputs e' ∧ (∀ d ∈ dependencies, e'.values.get d ≠ none) ∧
      (∀ n ∈ e.visited, n ∈ e'.visited) ∧ ∀ d, e.values.get d ≠ none → e'.values.get d ≠ none := by
  induction dependencies generalizing e with
  | nil =>
    rw [visitMissing] at h
    cases h
    exact ⟨hsound, fun _ hd => absurd hd not_mem_nil, fun _ hn => hn, fun _ hd => hd⟩
  | cons d rest ih =>
    rw [visitMissing, bind_ok_iff] at h
    obtain ⟨mid, hmid, h⟩ := h
    have hfirst : g.Sound inputs mid ∧ mid.values.get d ≠ none ∧
        (∀ n ∈ e.visited, n ∈ mid.visited) ∧
        ∀ k, e.values.get k ≠ none → mid.values.get k ≠ none := by
      by_cases hd : e.values.get d = none
      · rw [if_pos hd] at hmid
        obtain ⟨hmidSound, hvisited, hgrows, hkeeps⟩ := hvisit d e mid hsound
          (fun _ => by by_contra hne; exact hsound.kept d hne hd) hmid
        obtain ⟨v, hv, -⟩ := hmidSound.visited d hvisited
        exact ⟨hmidSound, by rw [hv]; exact some_ne_none v, hgrows, hkeeps⟩
      · rw [if_neg hd] at hmid
        cases hmid
        exact ⟨hsound, hd, fun _ hn => hn, fun _ hk => hk⟩
    obtain ⟨hmidSound, hmidGet, hgrows, hkeeps⟩ := hfirst
    obtain ⟨hsound', hgets, hgrows', hkeeps'⟩ :=
      ih (fun k hk => hdeps k (mem_cons_of_mem d hk)) hmidSound h
    exact ⟨hsound', forall_mem_cons.mpr ⟨hkeeps' d hmidGet, hgets⟩,
      fun n hn => hgrows' n (hgrows n hn), fun k hk => hkeeps' k (hkeeps k hk)⟩

/-- **Step lemma.** A visit keeps the values sound. The induction is on the features that are not
on the way. -/
theorem visit_sound (visiting : List String) : g.VisitSound inputs visiting := by
  induction hn : g.remaining visiting using Nat.strong_induction_on generalizing visiting with
  | _ n ih =>
    intro name e e' hsound hname h
    rw [visit] at h
    by_cases hvisited : name ∈ e.visited
    · rw [if_pos hvisited] at h
      cases h
      exact ⟨hsound, hvisited, fun _ hn => hn, fun _ hd => hd⟩
    · rw [if_neg hvisited] at h
      split at h
      · cases h
      · next hvisiting =>
        split at h
        · cases h
        · next node hnode =>
          rw [bind_ok_iff] at h
          obtain ⟨mid, hmid, h⟩ := h
          rw [bind_ok_iff] at h
          obtain ⟨value, hvalue, h⟩ := h
          cases h
          have hdeps : ∀ d ∈ node.dependencies, g.IsDependency d :=
            fun d hd => ⟨name, node, hnode, hd⟩
          obtain ⟨hmidSound, hgets, hgrows, hkeeps⟩ := visitMissing_sound
            (ih _ (hn ▸ g.remaining_lt hvisiting hnode) _ rfl) hdeps hsound hmid
          have hworth : g.Value inputs name value := by
            refine .feature hnode hgets ?_ ?_ hvalue
            · intro d hd w hw
              obtain ⟨v, hv⟩ := ne_none_iff_exists'.mp (hgets d hd)
              rcases hmidSound.resolved d (hdeps d hd) v hv with hgiven | ⟨hnone, -⟩
              · rw [hv, ← hw, hgiven]
              · rw [hw] at hnone
                cases hnone
            · intro d hd w hw hnone
              rcases hmidSound.resolved d (hdeps d hd) w hw with hgiven | ⟨-, hmade⟩
              · rw [hnone] at hgiven
                cases hgiven
              · exact hmade
          have hset : ∀ {k : String}, mid.values.get k ≠ none →
              (mid.values.set name value).get k ≠ none := by
            intro k hk
            rw [get_set]
            split
            · exact some_ne_none value
            · exact hk
          refine ⟨⟨?_, ?_, fun d hd => hset (hmidSound.kept d hd)⟩, mem_cons_self,
            fun k hk => mem_cons_of_mem _ (hgrows k hk), fun d hd => hset (hkeeps d hd)⟩
          · intro d hd v hv
            rw [get_set] at hv
            split at hv
            · next heq =>
              cases hv
              subst heq
              exact .inr ⟨hname hd, hworth⟩
            · exact hmidSound.resolved d hd v hv
          · intro k hk
            by_cases heq : k = name
            · subst heq
              exact ⟨value, get_set_self _ _ _, hworth⟩
            · obtain ⟨v, hv, hvalueOf⟩ := hmidSound.visited k
                ((mem_cons.mp hk).resolve_left heq)
              exact ⟨v, (get_set_ne _ heq _).trans hv, hvalueOf⟩

theorem picked_get {values d : Dict String ν} (h : picked values requested = .ok d) {v : ν}
    (hd : d.get name = some v) : values.get name = some v := by
  unfold picked at h
  revert d
  induction requested using List.reverseRecOn generalizing v with
  | nil =>
    intro d h hd
    cases h
    cases hd
  | append_singleton rest last ih =>
    intro d h hd
    rw [foldlM_append, bind_ok_iff] at h
    obtain ⟨before, hbefore, h⟩ := h
    rw [foldlM_cons, bind_ok_iff] at h
    obtain ⟨after, hafter, h⟩ := h
    cases h
    split at hafter
    · next value hvalue =>
      cases hafter
      rw [get_set] at hd
      split at hd
      · next heq =>
        cases hd
        rw [heq]
        exact hvalue
      · exact ih hbefore hd
    · cases hafter

/-- **What is computed is what features are worth**, where nothing that is requested is supplied to
those that depend on it. -/
theorem compute_worth {values : Dict String ν}
    (hrequested : ∀ r ∈ requested, g.IsDependency (strip r) → inputs.get (strip r) = none)
    (h : g.compute requested inputs = .ok values) {v : ν} (hname : name ∈ requested.map strip)
    (hv : values.get name = some v) : g.Value inputs name v := by
  unfold compute at h
  rw [require_bind_ok] at h
  obtain ⟨-, h⟩ := h
  rw [require_bind_ok, bind_ok_iff] at h
  obtain ⟨-, e, he, h⟩ := h
  have hwalk : ∀ (l : List String) (e e' : Evaluation ν),
      (∀ r ∈ l, g.IsDependency r → inputs.get r = none) → g.Sound inputs e →
      l.foldlM (fun e name => g.visit [] name e) e = .ok e' →
      g.Sound inputs e' ∧ ∀ r, r ∈ l ∨ r ∈ e.visited → r ∈ e'.visited := by
    intro l
    induction l with
    | nil =>
      intro e e' _ hsound h
      cases h
      exact ⟨hsound, fun r hr => hr.resolve_left not_mem_nil⟩
    | cons r rest ih =>
      intro e e' hl hsound h
      rw [foldlM_cons, bind_ok_iff] at h
      obtain ⟨mid, hmid, h⟩ := h
      obtain ⟨hmidSound, hvisited, hgrows, -⟩ :=
        visit_sound [] r e mid hsound (hl r mem_cons_self) hmid
      obtain ⟨hsound', hall⟩ := ih mid e' (fun q hq => hl q (mem_cons_of_mem r hq)) hmidSound h
      refine ⟨hsound', ?_⟩
      rintro q (hq | hq)
      · rcases mem_cons.mp hq with rfl | hq
        · exact hall q (.inr hvisited)
        · exact hall q (.inl hq)
      · exact hall q (.inr (hgrows q hq))
  have hstart : g.Sound inputs ⟨inputs, []⟩ :=
    ⟨fun _ _ _ hv => .inl hv, fun _ hn => absurd hn not_mem_nil, fun _ hd => hd⟩
  obtain ⟨hsound, hall⟩ := hwalk _ _ e (by
    intro r hr
    obtain ⟨q, hq, rfl⟩ := List.mem_map.mp hr
    exact hrequested q hq) hstart he
  obtain ⟨w, hw, hworth⟩ := hsound.visited name (hall name (.inl hname))
  cases (picked_get h hv).symm.trans hw
  exact hworth

/-- **A feature is computed alike** in two runs whose inputs agree on what is depended on, whatever
else is requested and in whatever order, if nothing that is requested is supplied to those that
depend on it. -/
theorem computed_alike (g : FeatureGraph ν) (hreads : g.ReadsDeclared)
    {requested requested' : List String} {inputs inputs' values values' : Dict String ν}
    (hagree : ∀ d, g.IsDependency d → inputs.get d = inputs'.get d)
    (hrequested : ∀ r ∈ requested ++ requested', g.IsDependency (strip r) →
      inputs.get (strip r) = none)
    (h : g.compute requested inputs = .ok values)
    (h' : g.compute requested' inputs' = .ok values') {name : String} {v v' : ν}
    (hname : name ∈ requested.map strip) (hname' : name ∈ requested'.map strip)
    (hv : values.get name = some v) (hv' : values'.get name = some v') : v = v' := by
  refine Value.unique hreads hagree (compute_worth ?_ h hname hv) (compute_worth ?_ h' hname' hv')
  · exact fun r hr => hrequested r (mem_append_left _ hr)
  · intro r hr hdep
    rw [← hagree _ hdep]
    exact hrequested r (mem_append_right _ hr) hdep

/-! ## A feature that is supplied -/

def twoFeatures (declared : List String) : FeatureGraph ℤ where
  nodes := (Dict.empty.set "mean" ⟨"mean", [], fun _ => .ok 1, "v1"⟩).set "signal"
    ⟨"signal", declared, fun values => .ok (values.getD "mean" 0), "v1"⟩

theorem twoFeatures_read : (twoFeatures ["mean"]).ReadsDeclared := by
  intro name node hnode values values' hagree
  have hcases : ∀ e ∈ (twoFeatures ["mean"]).nodes.entries, e.2.dependencies = [] ∧
        e.2.compute values = e.2.compute values' ∨ e.2.dependencies = ["mean"] ∧
        (values.get "mean" = values'.get "mean" → e.2.compute values = e.2.compute values') := by
    intro e he
    change e ∈ [_, _] at he
    rcases mem_cons.mp he with rfl | he
    · exact .inl ⟨rfl, rfl⟩
    · rw [mem_singleton.mp he]
      refine .inr ⟨rfl, fun h => ?_⟩
      show Except.ok (Option.getD _ _) = Except.ok (Option.getD _ _)
      rw [h]
  rcases hcases _ (mem_entries_iff.mpr hnode) with ⟨-, h⟩ | ⟨hdeps, h⟩
  · exact h
  · exact h (hagree _ (by rw [hdeps]; exact mem_singleton_self _))

variable {declared declared' : List String}

theorem visit_mean (hvisiting : "mean" ∉ visiting) (hvisited : "mean" ∉ visited)
    (values : Dict String ℤ) :
    (twoFeatures declared).visit visiting "mean" ⟨values, visited⟩
      = .ok ⟨values.set "mean" 1, "mean" :: visited⟩ := by
  rw [visit, if_neg hvisited, dif_neg hvisiting]
  split
  · next h =>
    change some _ = none at h
    cases h
  · next node h =>
    change some _ = some node at h
    cases h
    rw [visitMissing]
    rfl

variable {values values' : Dict String ℤ}

theorem visit_signal (hvisited : "signal" ∉ visited)
    (h : (twoFeatures declared).visitMissing ["signal"] declared ⟨values, visited⟩
      = .ok ⟨values', visited'⟩) :
    (twoFeatures declared).visit [] "signal" ⟨values, visited⟩
      = .ok ⟨values'.set "signal" (values'.getD "mean" 0), "signal" :: visited'⟩ := by
  rw [visit, if_neg hvisited, dif_neg not_mem_nil]
  split
  · next hnode =>
    change some _ = none at hnode
    cases hnode
  · next node hnode =>
    change some _ = some node at hnode
    cases hnode
    exact (congrArg (· >>= _) h).trans rfl

theorem mean_missing (h : values.get "mean" = none) :
    (twoFeatures ["mean"]).visitMissing ["signal"] ["mean"] ⟨values, []⟩
      = .ok ⟨values.set "mean" 1, ["mean"]⟩ := by
  rw [visitMissing, if_pos h, visit_mean (by decide) (by decide)]
  exact visitMissing.eq_1 ..

theorem declared_there (h : ∀ d ∈ declared, values.get d ≠ none) (visited : List String) :
    (twoFeatures declared').visitMissing ["signal"] declared ⟨values, visited⟩
      = .ok ⟨values, visited⟩ := by
  induction declared with
  | nil => exact visitMissing.eq_1 ..
  | cons d rest ih =>
    rw [visitMissing, if_neg (h d mem_cons_self)]
    exact ih fun k hk => h k (mem_cons_of_mem d hk)

theorem compute_walked {values : Dict String ν} {e : Evaluation ν}
    (hnames : requested.map strip ≠ [] ∧ "" ∉ requested.map strip)
    (hnodup : (requested.map strip).Nodup)
    (hwalk : (requested.map strip).foldlM (fun e name => g.visit [] name e) ⟨inputs, []⟩ = .ok e)
    (hpicked : picked e.values (requested.map strip) = .ok values) :
    g.compute requested inputs = .ok values :=
  require_bind_ok.mpr ⟨hnames, require_bind_ok.mpr ⟨hnodup, bind_ok_iff.mpr ⟨e, hwalk, hpicked⟩⟩⟩

theorem mean_signal {inputs values : Dict String ℤ}
    (h : ∀ d ∈ declared, (inputs.set "mean" 1).get d ≠ none)
    (hmean : (inputs.set "mean" 1).getD "mean" 0 = 1)
    (hpicked : picked ((inputs.set "mean" 1).set "signal" 1) ["mean", "signal"] = .ok values) :
    (twoFeatures declared).compute ["mean", "signal"] inputs = .ok values := by
  have hnames : ["mean", "signal"].map strip = ["mean", "signal"] := by decide +kernel
  refine compute_walked (e := ⟨(inputs.set "mean" 1).set "signal" 1, ["signal", "mean"]⟩)
    (by decide +kernel) (by decide +kernel) ?_ (by rw [hnames]; exact hpicked)
  rw [hnames]
  refine bind_ok_iff.mpr ⟨_, visit_mean (by decide) (by decide) _, ?_⟩
  refine bind_ok_iff.mpr ⟨_, visit_signal (by decide) (declared_there h _), ?_⟩
  rw [hmean]
  rfl

theorem signal_mean {inputs values : Dict String ℤ} {v : ℤ}
    (h : ∀ d ∈ declared, inputs.get d ≠ none) (hmean : inputs.getD "mean" 0 = v)
    (hpicked : picked ((inputs.set "signal" v).set "mean" 1) ["signal", "mean"] = .ok values) :
    (twoFeatures declared).compute ["signal", "mean"] inputs = .ok values := by
  have hnames : ["signal", "mean"].map strip = ["signal", "mean"] := by decide +kernel
  refine compute_walked (e := ⟨(inputs.set "signal" v).set "mean" 1, ["mean", "signal"]⟩)
    (by decide +kernel) (by decide +kernel) ?_ (by rw [hnames]; exact hpicked)
  rw [hnames]
  refine bind_ok_iff.mpr ⟨_, visit_signal (by decide) (declared_there h _), ?_⟩
  refine bind_ok_iff.mpr ⟨_, visit_mean (by decide) (by decide) _, ?_⟩
  rw [hmean]
  rfl

/-- **Witness.** The signal alone, and after the mean. -/
theorem signal_alike : ∃ values values' : Dict String ℤ, ∃ v v' : ℤ,
    (twoFeatures ["mean"]).compute ["signal"] Dict.empty = .ok values ∧
    (twoFeatures ["mean"]).compute ["mean", "signal"] Dict.empty = .ok values' ∧
    values.get "signal" = some v ∧ values'.get "signal" = some v' ∧ v = v' := by
  have hsignal : (twoFeatures ["mean"]).compute ["signal"] Dict.empty
      = .ok (Dict.empty.set "signal" 1) := by
    refine compute_walked (by decide +kernel) (by decide +kernel)
      (bind_ok_iff.mpr ⟨_, visit_signal (by decide) (mean_missing (by decide)), rfl⟩) ?_
    decide +kernel
  have hboth : (twoFeatures ["mean"]).compute ["mean", "signal"] Dict.empty
      = .ok ((Dict.empty.set "mean" 1).set "signal" 1) :=
    mean_signal (by decide) rfl (by decide +kernel)
  have hrequested : ∀ r ∈ ["signal"] ++ ["mean", "signal"],
      (twoFeatures ["mean"]).IsDependency (strip r) →
        (Dict.empty : Dict String ℤ).get (strip r) = none :=
    fun _ _ _ => rfl
  have hmem : "signal" ∈ ["signal"].map strip := by decide +kernel
  have hmem' : "signal" ∈ ["mean", "signal"].map strip := by decide +kernel
  exact ⟨_, _, 1, 1, hsignal, hboth, rfl, rfl, computed_alike _ twoFeatures_read
    (fun _ _ => rfl) hrequested hsignal hboth hmem hmem' rfl rfl⟩

/-- **Counterexample.** A mean that is supplied is what the signal reads, unless the mean is
requested before the signal; and one that the signal does not declare is not there before it is
requested. -/
theorem signal_follows_order :
    (∃ values values', values.get "signal" = some 1 ∧ values'.get "signal" = some 99 ∧
      (twoFeatures ["mean"]).compute ["mean", "signal"] (Dict.empty.set "mean" 99) = .ok values ∧
      (twoFeatures ["mean"]).compute ["signal", "mean"] (Dict.empty.set "mean" 99) = .ok values') ∧
    ∃ values values', values.get "signal" = some 1 ∧ values'.get "signal" = some 0 ∧
      (twoFeatures []).compute ["mean", "signal"] Dict.empty = .ok values ∧
      (twoFeatures []).compute ["signal", "mean"] Dict.empty = .ok values' := by
  refine ⟨⟨(Dict.empty.set "mean" 1).set "signal" 1, (Dict.empty.set "signal" 99).set "mean" 1,
    rfl, rfl, mean_signal (by decide) rfl ?_, signal_mean (by decide) rfl ?_⟩,
    (Dict.empty.set "mean" 1).set "signal" 1, (Dict.empty.set "signal" 0).set "mean" 1,
    rfl, rfl, mean_signal (by decide) rfl ?_, signal_mean (by decide) rfl ?_⟩
  all_goals decide +kernel

end FeatureGraph

end AdvisorAI
