import Conformance.Proofs.Session.Actions

/-!
# The stage of a session stays

Configuration and cast are chosen before a session begins. Processes come and go and files change, but
no step of a suite touches the stage, so the paths that a session tidies up at its end are those that it
knew at its start (`keepsStage_perform`).
-/

namespace Conformance.Session

variable {σ α β : Type}

/-- An action leaves the stage as it is, wherever it is taken. -/
def KeepsStage (act : Run σ α) : Prop := ∀ s, (act.after s).stage = s.stage

theorem keepsStage_bind {act : Run σ α} {next : α → Run σ β} (hact : KeepsStage act)
    (hnext : ∀ a, KeepsStage (next a)) : KeepsStage (act >>= next) :=
  fun s => (hnext (act.value s) (act.after s)).trans (hact s)

theorem keepsStage_pure (a : α) : KeepsStage (pure a : Run σ α) := fun _ => rfl

theorem keepsStage_holdServer (server : Option Spawned) :
    KeepsStage (holdServer server : Run σ Unit) :=
  fun _ => rfl

variable [Machine σ]

theorem Aside.keepsStage {act : Run σ α} (h : Aside act) : KeepsStage act := h.stage

theorem keepsStage_spawn (role : Role) (line : CommandLine) :
    KeepsStage (spawn role line : Run σ _) :=
  fun _ => rfl

theorem keepsStage_wait (id : ProcessId) : KeepsStage (wait id : Run σ _) := fun _ => rfl

theorem keepsStage_stopServer : KeepsStage (stopServer : Run σ Unit) := by
  intro s
  cases hserver : s.server with
  | none => rw [after_stopServer_none hserver]
  | some server => rw [after_stopServer_some hserver]

theorem keepsStage_startServer (description : String) (banner : Banner) :
    KeepsStage (startServer description banner : Run σ Bool) := by
  refine keepsStage_bind keepsStage_stopServer fun _ => ?_
  refine keepsStage_bind aside_get.keepsStage fun s => ?_
  refine keepsStage_bind (aside_print _).keepsStage fun _ => ?_
  refine keepsStage_bind (aside_note _).keepsStage fun _ => ?_
  refine keepsStage_bind (keepsStage_spawn _ _) fun result => ?_
  cases result with
  | error e => exact (aside_bind (aside_record _) fun _ => aside_pure _).keepsStage
  | ok spawned =>
      refine keepsStage_bind (aside_readLines _ _).keepsStage fun ⟨_, spawned⟩ => ?_
      refine keepsStage_bind (aside_recordAll _).keepsStage fun _ => ?_
      refine keepsStage_bind (aside_checkReady _).keepsStage fun ⟨_, spawned⟩ => ?_
      exact keepsStage_bind (keepsStage_holdServer _) fun _ => keepsStage_pure _

theorem keepsStage_consumeConnections (count : Nat) :
    KeepsStage (consumeConnections count : Run σ Unit) := by
  refine keepsStage_bind aside_get.keepsStage fun s => ?_
  split
  · exact keepsStage_pure _
  · refine keepsStage_bind (aside_readConnections _ _).keepsStage fun ⟨_, _⟩ => ?_
    exact keepsStage_bind (keepsStage_holdServer _) fun _ => (aside_recordAll _).keepsStage

theorem keepsStage_awaitEnd (server : Spawned) : KeepsStage (awaitEnd server : Run σ Bool) := by
  refine keepsStage_bind (keepsStage_wait _) fun result => ?_
  cases result with
  | ok status => exact keepsStage_pure _
  | error e => exact (aside_bind (aside_record _) fun _ => aside_pure _).keepsStage

theorem keepsStage_awaitServer (description : String) :
    KeepsStage (awaitServer description : Run σ Bool) := by
  refine keepsStage_bind aside_get.keepsStage fun s => ?_
  split
  · exact (aside_bind (aside_record _) fun _ => aside_pure _).keepsStage
  · refine keepsStage_bind (keepsStage_holdServer _) fun _ => ?_
    refine keepsStage_bind (aside_readConnection _).keepsStage fun ⟨_, _⟩ => ?_
    refine keepsStage_bind (aside_recordAll _).keepsStage fun _ => ?_
    refine keepsStage_bind (aside_readLine _).keepsStage fun ⟨_, _⟩ => ?_
    refine keepsStage_bind (aside_recordVerdict _).keepsStage fun _ => ?_
    exact keepsStage_bind (keepsStage_awaitEnd _) fun _ => keepsStage_pure _

theorem keepsStage_launchClient (description expected : String) (request : Request) :
    KeepsStage (launchClient description expected request : Run σ _) := by
  refine keepsStage_bind aside_get.keepsStage fun _ => ?_
  refine keepsStage_bind aside_get.keepsStage fun _ => ?_
  refine keepsStage_bind (aside_print _).keepsStage fun _ => ?_
  refine keepsStage_bind (keepsStage_spawn _ _) fun result => ?_
  cases result with
  | ok spawned => exact keepsStage_pure _
  | error e => exact (aside_bind (aside_record _) fun _ => aside_pure _).keepsStage

theorem keepsStage_finishClient (client : Spawned) (connections : Nat) :
    KeepsStage (finishClient client connections : Run σ Unit) := by
  refine keepsStage_bind (keepsStage_wait _) fun result => ?_
  cases result with
  | ok status => exact keepsStage_consumeConnections _
  | error e =>
      exact keepsStage_bind (aside_record _).keepsStage fun _ => keepsStage_consumeConnections _

theorem keepsStage_run (description : String) (expect : Reply) (request : Request) :
    KeepsStage (run description expect request : Run σ Bool) := by
  refine keepsStage_bind (keepsStage_launchClient _ _ _) fun result => ?_
  split
  · exact keepsStage_pure _
  · refine keepsStage_bind (aside_readLine _).keepsStage fun ⟨_, _⟩ => ?_
    refine keepsStage_bind (aside_recordVerdict _).keepsStage fun _ => ?_
    exact keepsStage_bind (keepsStage_finishClient _ _) fun _ => keepsStage_pure _

/-- No step changes the configuration or the cast. -/
theorem keepsStage_perform (step : Step) : KeepsStage (perform step : Run σ _) := by
  cases step with
  | begin title => exact (aside_bind (aside_begin title) fun _ => aside_pure _).keepsStage
  | clean => exact (aside_bind aside_cleanGenerated fun _ => aside_pure _).keepsStage
  | start description banner =>
      exact keepsStage_bind (keepsStage_startServer description banner) fun _ => keepsStage_pure _
  | run description expect request =>
      exact keepsStage_bind (keepsStage_run description expect request) fun _ => keepsStage_pure _
  | awaitServer description =>
      exact keepsStage_bind (keepsStage_awaitServer description) fun _ => keepsStage_pure _
  | existence file shouldExist =>
      exact (aside_bind (aside_checkExistence file shouldExist) fun _ => aside_pure _).keepsStage
  | fetched source user =>
      exact (aside_bind (aside_checkFetched source user) fun _ => aside_pure _).keepsStage
  | list file expected order =>
      exact (aside_bind (aside_checkList file expected order) fun _ => aside_pure _).keepsStage
  | size file expected =>
      exact (aside_bind (aside_checkSize file expected) fun _ => aside_pure _).keepsStage
  | peek file offset expected =>
      exact (aside_bind (aside_checkPeek file offset expected) fun _ => aside_pure _).keepsStage
  | directory file expected =>
      exact (aside_bind (aside_checkDirectory file expected) fun _ => aside_pure _).keepsStage
  | make file size => exact (aside_makeFile file _).keepsStage
  | remove file => exact (aside_bind (aside_dropFile file) fun _ => aside_pure _).keepsStage

end Conformance.Session
