import AdvisorAI.Agents.Fusion
import AdvisorAI.Lake.PointInTime
import AdvisorAI.Lib.Checks
import AdvisorAI.Resources.Governor

/-!
# The evidence council

A wave asks one role after another for evidence; what a role answers is up to its function. The
first wave asks the initial roles, and a second one asks optional roles when the gate does not pass
or a role dissents. The state of a run keeps the graph, the roles whose functions were called, also
by a wave that raises later, and the waves that were started.
-/

namespace AdvisorAI

open Lib List

structure AgentRun where
  missionId : UUID
  role : String
  mode : String
  snapshotId : UUID
  provider : Option String
  modelRoute : Option String
  promptVersion : Option String
  toolVersions : List String
  inputArtifactIds : List UUID
  outputArtifactIds : List UUID
  latencyMs : ℤ

/-- `validate_agent_run_metadata`, after `Field(ge=0)`. -/
def AgentRun.validated (run : AgentRun) : Except PyError AgentRun := do
  let invalid message : PyError := ⟨"ValidationError", message⟩
  require (0 ≤ run.latencyMs) (invalid "latency_ms")
  require (¬ isBlank run.role ∧ ¬ isBlank run.mode)
    (invalid "agent runs require a role and operating mode")
  require (run.provider.isNone = run.modelRoute.isNone)
    (invalid "agent run provider and model route must be supplied together")
  require (¬ run.provider.any isBlank) (invalid "agent run provider cannot be blank")
  require (¬ run.modelRoute.any isBlank) (invalid "agent run model route cannot be blank")
  require (¬ run.promptVersion.any isBlank) (invalid "agent run prompt version cannot be blank")
  require (¬ run.toolVersions.any isBlank) (invalid "agent run tool versions cannot be blank")
  require run.toolVersions.Nodup (invalid "agent run tool versions must be unique")
  require run.inputArtifactIds.Nodup (invalid "agent run input artifact IDs must be unique")
  require run.outputArtifactIds.Nodup (invalid "agent run output artifact IDs must be unique")
  return run

structure RoleResult where
  role : String
  evidence : List Evidence
  dissent : List String := []
  unresolved : Bool := false
  provider : Option String := none
  modelRoute : Option String := none
  promptVersion : Option String := none
  toolVersions : List String := []
  agentRun : Option AgentRun := none

namespace RoleResult

def checkRun (r : RoleResult) (run : AgentRun) : Except PyError Unit := do
  require (run.role = r.role) (valueError "agent run role must match the typed evidence role")
  require (run.provider = r.provider ∧ run.modelRoute = r.modelRoute)
    (valueError "agent run provider metadata must match the typed role result")
  require (run.promptVersion = r.promptVersion)
    (valueError "agent run prompt metadata must match the typed role result")
  require (run.toolVersions = r.toolVersions)
    (valueError "agent run tool metadata must match the typed role result")
  require (∀ item ∈ r.evidence, item.artifactId ∈ run.outputArtifactIds)
    (valueError "agent run must record every typed evidence output")

/-- `__post_init__`. -/
def validated (r : RoleResult) : Except PyError RoleResult := do
  require (¬ isBlank r.role) (valueError "evidence role must be non-empty")
  require (¬ r.dissent.any isBlank) (valueError "evidence dissent entries cannot be blank")
  require (¬ r.toolVersions.any isBlank) (valueError "evidence tool versions cannot be blank")
  require r.toolVersions.Nodup (valueError "evidence tool versions must be unique")
  require (r.provider.isNone = r.modelRoute.isNone)
    (valueError "provider and model route metadata must be supplied together")
  require (¬ r.provider.any isBlank) (valueError "provider metadata cannot be blank")
  require (¬ r.modelRoute.any isBlank) (valueError "model route metadata cannot be blank")
  require (¬ r.promptVersion.any isBlank)
    (valueError "prompt version metadata cannot be blank")
  checkAll r.checkRun r.agentRun.toList
  return r

end RoleResult

structure RoutedMission where
  missionId : UUID
  mode : MissionMode
  roleBudget : ℕ

structure CouncilRun where
  graph : EvidenceGraph
  invoked : List String := []
  waves : List (List String) := []

/-- A role may answer by what went before. -/
abbrev RoleFunction := Snapshot → CouncilRun → Except PyError RoleResult

abbrev Wave := EStateM PyError CouncilRun

namespace EvidenceCouncil

variable (roleFunctions : Dict String RoleFunction) (snapshot : Snapshot)
  (missionId : Option UUID)

def invoke (role : String) (function : RoleFunction) : Wave RoleResult := do
  let answer ← Local.read (function snapshot)
  Local.modify fun c => { c with invoked := c.invoked ++ [role] }
  Local.lift answer

def checkAnswer (role : String) (result : RoleResult) : Except PyError Unit := do
  require (strip result.role = role) (valueError ("evidence role " ++ pyRepr role
    ++ " returned a result for " ++ pyRepr result.role))
  checkAll (fun run => do
    require (run.snapshotId = snapshot.artifactId)
      (valueError "agent run snapshot must match the council snapshot")
    require (∀ id ∈ missionId, run.missionId = id)
      (valueError "agent run mission must match the council mission")
    require (snapshot.artifactId ∈ run.inputArtifactIds)
      (valueError "agent run must record the council snapshot as an input")) result.agentRun.toList

def addEvidence (role : String) : List Evidence → Wave Unit
  | [] => pure ()
  | evidence :: rest => do
    Local.assign fun c =>
      (c.graph.add evidence role none).map fun added => { c with graph := added.2 }
    addEvidence role rest

/-- The run that is recorded of a role that records none. -/
def complete (role : String) (result : RoleResult) : Except PyError RoleResult :=
  match result.agentRun, missionId with
  | none, some missionId => do
    let run ← AgentRun.validated {
      missionId
      role
      mode := "council"
      snapshotId := snapshot.artifactId
      provider := result.provider
      modelRoute := result.modelRoute
      promptVersion := result.promptVersion
      toolVersions := result.toolVersions
      inputArtifactIds := [snapshot.artifactId]
      outputArtifactIds := result.evidence.map fun item => item.artifactId
      latencyMs := 0 }
    RoleResult.validated { result with agentRun := some run }
  | _, _ => .ok result

def ask (role : String) (function : RoleFunction) : Wave RoleResult := do
  let result ← invoke snapshot role function
  Local.lift (checkAnswer snapshot missionId role result)
  addEvidence role result.evidence
  Local.lift (complete snapshot missionId role result)

/-- The loop of `run_wave`, with the roles it has `seen`. -/
def askAll : List String → List RoleResult → List String → Wave (List RoleResult)
  | _, results, [] => pure results
  | seen, results, rawRole :: roles =>
    if isBlank rawRole then Local.raise (valueError "evidence role names cannot be blank")
    else if strip rawRole ∈ seen then askAll seen results roles
    else match roleFunctions.get (strip rawRole) with
      | none => askAll (strip rawRole :: seen) results roles
      | some function => do
        let result ← ask snapshot missionId (strip rawRole) function
        askAll (strip rawRole :: seen) (results ++ [result]) roles

def runWave (roles : List String) : Wave (List RoleResult) := do
  Local.modify fun c => { c with waves := c.waves ++ [roles] }
  askAll roleFunctions snapshot missionId [] [] roles

/-! ## What a wave calls -/

/-- The calls of a run, which evidence does not touch. -/
def calls (c : CouncilRun) : List (List String) × List String := (c.waves, c.invoked)

theorem keeps_addEvidence (role : String) (items : List Evidence) :
    Local.Keeps calls (addEvidence role items) := by
  induction items with
  | nil => exact .pure ()
  | cons item items ih =>
    refine .bind (fun c => ?_) fun _ => ih
    unfold Local.after Local.assign
    dsimp only
    cases c.graph.add item role none <;> rfl

theorem after_of_ok {α : Type} {x : Wave α} {a : α} {c c' : CouncilRun} (h : x c = .ok a c') :
    Local.after x c = c' := by
  unfold Local.after
  rw [h]

theorem after_bind_of {α β : Type} {P : CouncilRun → Prop} {x : Wave α} {f : α → Wave β}
    {c : CouncilRun} (hx : P (Local.after x c))
    (hf : ∀ a c', x c = .ok a c' → P (Local.after (f a) c')) : P (Local.after (x >>= f) c) := by
  cases hrun : x c with
  | ok a c' =>
    rw [Local.after_bind_ok hrun]
    exact hf a c' hrun
  | error e c' =>
    rw [Local.after_bind_error hrun]
    unfold Local.after at hx
    rwa [hrun] at hx

/-- What a loop leaves that has `seen` some roles: it called roles of its list, none that it has
seen and none twice. -/
structure Calls (seen roles : List String) (c c' : CouncilRun) (called : List String) : Prop where
  waves_eq : c'.waves = c.waves
  invoked_eq : c'.invoked = c.invoked ++ called
  nodup : called.Nodup
  listed : ∀ role ∈ called, role ∈ roles.map strip ∧ role ∉ seen

variable {seen roles : List String} {c c' : CouncilRun} {called : List String}

theorem Calls.none : Calls seen roles c c [] :=
  ⟨rfl, (append_nil _).symm, nodup_nil, fun _ h => absurd h not_mem_nil⟩

theorem calls_ask (role : String) (function : RoleFunction) (c : CouncilRun) :
    calls (Local.after (ask snapshot missionId role function) c)
      = (c.waves, c.invoked ++ [role]) := by
  have hinvoke : Local.after (invoke snapshot role function) c
      = { c with invoked := c.invoked ++ [role] } :=
    Local.Keeps.lift (p := id) (function snapshot c) _
  refine after_bind_of (P := fun c' => calls c' = _) (congrArg calls hinvoke) ?_
  intro result c' hrun
  rw [after_of_ok hrun] at hinvoke
  have hkept := (Local.Keeps.lift (checkAnswer snapshot missionId role result)).bind
    (fun _ => (keeps_addEvidence role result.evidence).bind fun _ =>
      .lift (complete snapshot missionId role result)) c'
  exact hkept.trans (congrArg calls hinvoke)

theorem calls_askAll (results : List RoleResult) : ∃ called, Calls seen roles c
    (Local.after (askAll roleFunctions snapshot missionId seen results roles) c) called := by
  induction roles generalizing seen results c with
  | nil => exact ⟨[], .none⟩
  | cons rawRole roles ih =>
    unfold askAll
    split
    · exact ⟨[], .none⟩
    split
    · obtain ⟨called, hcalled⟩ := @ih seen c results
      exact ⟨called, { hcalled with
        listed := fun role h => (hcalled.listed role h).imp_left (mem_cons_of_mem _) }⟩
    next hseen =>
    split
    · obtain ⟨called, hcalled⟩ := @ih (strip rawRole :: seen) c results
      exact ⟨called, { hcalled with
        listed := fun role h => (hcalled.listed role h).imp (mem_cons_of_mem _)
          (mt (mem_cons_of_mem _)) }⟩
    · next function _ =>
      have hcalls := calls_ask snapshot missionId (strip rawRole) function c
      rw [calls, Prod.mk.injEq] at hcalls
      have hasked : Calls seen (rawRole :: roles) c _ [strip rawRole] :=
        ⟨hcalls.1, hcalls.2, nodup_singleton _,
          forall_mem_singleton.mpr ⟨mem_cons_self, hseen⟩⟩
      refine after_bind_of (P := fun c' => ∃ called, Calls seen (rawRole :: roles) c c' called)
        ⟨_, hasked⟩ fun result c' hrun => ?_
      rw [after_of_ok hrun] at hasked
      obtain ⟨called, hcalled⟩ := @ih (strip rawRole :: seen) c' (results ++ [result])
      refine ⟨strip rawRole :: called, hcalled.waves_eq.trans hasked.waves_eq, ?_, ?_, ?_⟩
      · rw [hcalled.invoked_eq, hasked.invoked_eq, append_assoc]
        rfl
      · exact nodup_cons.mpr ⟨fun h => (hcalled.listed _ h).2 mem_cons_self, hcalled.nodup⟩
      · refine forall_mem_cons.mpr ⟨⟨mem_cons_self, hseen⟩, fun role h => ?_⟩
        exact (hcalled.listed role h).imp (mem_cons_of_mem _) (mt (mem_cons_of_mem _))

theorem calls_runWave (roles : List String) (c : CouncilRun) :
    ∃ called, Calls [] roles { c with waves := c.waves ++ [roles] }
      (Local.after (runWave roleFunctions snapshot missionId roles) c) called :=
  calls_askAll roleFunctions snapshot missionId []

/-! ## Adaptive waves -/

/-- `dict.fromkeys(role.strip() for role in roles if role.strip())`. -/
def named (roles : List String) : List String :=
  (Dict.fromKeys ((roles.filter fun role => ¬ isBlank role).map strip)).keys

variable (initialRoles optionalRoles : List String) (budget : ℕ)

def initial : List String := (named initialRoles).take budget

def remaining : List String :=
  (named (optionalRoles.filter fun role => strip role ∉ initial initialRoles budget)).take
    (budget - (initial initialRoles budget).length)

def unresolved (results : List RoleResult) : Bool :=
  results.any fun result => result.unresolved || result.dissent ≠ []

def runAdaptiveWaves (mission : RoutedMission)
    (minimumSourceFamilies minimumFactorFamilies : ℤ) : Wave (List RoleResult) :=
  if mission.roleBudget < 1 then pure []
  else do
    let results ← runWave roleFunctions snapshot (some mission.missionId)
      (initial initialRoles mission.roleBudget)
    let answer ← Local.read fun c => c.graph.gate
      ⟨minimumSourceFamilies, minimumFactorFamilies, true, some snapshot.asOf⟩
    let gate ← Local.lift answer
    if (¬ gate.passed ∨ unresolved results) ∧ mission.mode.value ∈ ["deep", "standard"] then do
      let more ← runWave roleFunctions snapshot (some mission.missionId)
        (remaining initialRoles optionalRoles mission.roleBudget)
      return results ++ more
    else return results

variable {initialRoles optionalRoles budget} {more : List String} {role : String}

theorem exists_of_mem_named {roles : List String} {n : ℕ} (h : role ∈ (named roles).take n) :
    ∃ raw ∈ roles, strip raw = role := by
  obtain ⟨raw, hraw, rfl⟩ := mem_map.mp (Dict.mem_fromKeys.mp (mem_of_mem_take h))
  exact ⟨raw, (mem_filter.mp hraw).1, rfl⟩

theorem mem_of_listed {roles : List String} {n : ℕ}
    (h : role ∈ ((named roles).take n).map strip) : role ∈ (named roles).take n := by
  obtain ⟨given, hgiven, hrole⟩ := mem_map.mp h
  obtain ⟨raw, -, hraw⟩ := exists_of_mem_named hgiven
  rw [← hraw, strip_strip, hraw] at hrole
  rwa [← hrole]

theorem Calls.length_le (h : Calls seen roles c c' called) : called.length ≤ roles.length :=
  (h.nodup.subperm fun role hrole => (h.listed role hrole).1).length_le.trans_eq (length_map strip)

/-- The calls and the waves of a run stay within its budget. -/
def WithinBudget (budget : ℕ) (c : CouncilRun) : Prop :=
  c.invoked.Nodup ∧ c.invoked.length ≤ budget ∧ c.waves.length ≤ 2

variable {graph : EvidenceGraph} {wave : List String}

theorem withinBudget_first
    (h : Calls [] (initial initialRoles budget) { graph, waves := [wave] } c called) :
    WithinBudget budget c := by
  have hinvoked : c.invoked = called := h.invoked_eq
  refine ⟨hinvoked ▸ h.nodup, ?_, h.waves_eq ▸ Nat.le_succ 1⟩
  rw [hinvoked]
  exact h.length_le.trans (length_take_le _ _)

/-- The second wave is left what the first has not used, and names none of its roles. -/
theorem withinBudget_second {wave' : List String}
    (h : Calls [] (initial initialRoles budget) { graph, waves := [wave] } c called)
    (hmore : Calls [] (remaining initialRoles optionalRoles budget)
      { c with waves := c.waves ++ [wave'] } c' more) : WithinBudget budget c' := by
  have hinvoked : c'.invoked = called ++ more := by
    rw [hmore.invoked_eq, h.invoked_eq]
    rfl
  have hwaves : c'.waves.length = 2 := by
    rw [hmore.waves_eq, h.waves_eq]
    rfl
  have hsecond := hmore.length_le.trans (length_take_le _ _)
  have hinitial : (initial initialRoles budget).length ≤ budget := length_take_le _ _
  refine ⟨?_, ?_, hwaves.le⟩
  · rw [hinvoked]
    refine nodup_append'.mpr ⟨h.nodup, hmore.nodup, fun role hcalled hagain => ?_⟩
    obtain ⟨raw, hraw, rfl⟩ :=
      exists_of_mem_named (mem_of_listed (hmore.listed role hagain).1)
    exact of_decide_eq_true (mem_filter.mp hraw).2 (mem_of_listed (h.listed _ hcalled).1)
  · rw [hinvoked, length_append]
    have hfirst := h.length_le
    omega

theorem after_lift {α : Type} (x : Except PyError α) : Local.after (Local.lift x : Wave α) c = c :=
  Local.Keeps.lift (p := id) x c

/-- **A run calls at most as many roles as its budget admits**, none twice, in at most two waves,
whatever the roles answer and whether it returns or raises. -/
theorem waves_within_budget (roleFunctions : Dict String RoleFunction) (snapshot : Snapshot)
    (initialRoles optionalRoles : List String) (mission : RoutedMission)
    (minimumSourceFamilies minimumFactorFamilies : ℤ) (graph : EvidenceGraph) :
    WithinBudget mission.roleBudget (Local.after (runAdaptiveWaves roleFunctions snapshot
      initialRoles optionalRoles mission minimumSourceFamilies minimumFactorFamilies)
        { graph }) := by
  unfold runAdaptiveWaves
  split
  · exact ⟨nodup_nil, Nat.zero_le _, Nat.zero_le _⟩
  obtain ⟨called, hcalled⟩ := calls_runWave roleFunctions snapshot (some mission.missionId)
    (initial initialRoles mission.roleBudget) { graph }
  have hfirst := withinBudget_first hcalled
  refine after_bind_of hfirst fun results c hrun => ?_
  rw [after_of_ok hrun] at hcalled hfirst
  rw [Local.after_bind_ok (Local.read_ok _ c)]
  refine after_bind_of (by rwa [after_lift]) fun gate c' hlift => ?_
  rw [← after_of_ok hlift, after_lift]
  split
  · obtain ⟨more, hmore⟩ := calls_runWave roleFunctions snapshot (some mission.missionId)
      (remaining initialRoles optionalRoles mission.roleBudget) c
    have hsecond := withinBudget_second hcalled hmore
    refine after_bind_of hsecond fun more c' hrun' => ?_
    rwa [after_of_ok hrun'] at hsecond
  · exact hfirst

end EvidenceCouncil
end AdvisorAI
