import Conformance.Proofs.Session.Simulation

/-!
# No process is lost

Session and registry each remember processes: the session holds at most one server, the registry
tracks everything that was started and has not ended. Six operations move the two separately, each
with its own ways out. `Accounted` says that they agree; every operation of a session preserves it
(`keeps_perform`), whatever server, clients and machine do, and so does every sequence of operations.

Inside an operation the two disagree for a while. Between its start and the moment it is held, and
again between being let go and the end of the wait, a server is `TracksOnly`; while a client runs, the
session is `Visited` by it.

What the registry tracks is one thing, what lives on the machine another. A `Ledger` is something that is
said of both together and that every operation of the registry keeps, provided no server is started while
one is tracked. The record of a machine is one (`Recorded.ledger`): exactly what is tracked is alive, and
at no time were two servers alive, not even while one server was started in place of another.
-/

namespace Conformance

/-! ## Ledgers -/

/-- Something that is said of a registry and a machine, and kept by what the registry does. -/
structure Ledger (σ : Type) [Machine σ] where
  Agrees : Registry → σ → Prop
  undisturbed {registry : Registry} {machine machine' : σ} (h : Agrees registry machine)
    (hmachine : Machine.Undisturbed machine machine') : Agrees registry machine'
  refused {registry : Registry} {machine machine' : σ} {line : CommandLine} {e : OsError}
    (h : Agrees registry machine) (hlaunch : registry.launch line machine = (.error e, machine')) :
    Agrees registry machine'
  /-- No server is started while one is tracked. -/
  started {registry : Registry} {machine machine' : σ} {line : CommandLine} {process : Nat}
    (h : Agrees registry machine) (halone : line.role = .server → registry.tracked = [])
    (hlaunch : registry.launch line machine = (.ok process, machine')) :
    Agrees (registry.track line.role process) machine'
  /-- It is the process tracked last that is waited for. -/
  waited {registry : Registry} {machine : σ} {others : List Tracked} {last : Tracked}
    (h : Agrees registry machine) (htracked : registry.tracked = others ++ [last])
    (hothers : ∀ found ∈ others, found.id ≠ last.id) (millis : Nat) :
    Agrees { registry with tracked := others } (registry.wait last.id millis machine).2.2
  killed {registry : Registry} {machine : σ} {others : List Tracked} {last : Tracked}
    (h : Agrees registry machine) (htracked : registry.tracked = others ++ [last])
    (hothers : ∀ found ∈ others, found.id ≠ last.id) :
    Agrees { registry with tracked := others } (registry.kill last.id machine).2
  terminated {registry : Registry} {machine : σ} (h : Agrees registry machine) :
    Agrees { registry with tracked := [] } (registry.terminateAll machine).2.2

/-- The ledger in which nothing is written. -/
def Ledger.blank (σ : Type) [Machine σ] : Ledger σ :=
  ⟨fun _ _ => True, fun _ _ => trivial, fun _ _ => trivial, fun _ _ _ => trivial,
    fun _ _ _ _ => trivial, fun _ _ _ => trivial, fun _ => trivial⟩

namespace Recorded

variable {σ : Type} {registry : Registry} {recorded recorded' : Recorded σ}

/-- What is tracked is exactly what is alive, and never were two servers. -/
def Balanced (registry : Registry) (recorded : Recorded σ) : Prop :=
  alive recorded.record = (registry.tracked.map fun found => (found.role, found.process)).reverse ∧
    NeverTwo recorded.record

/-- The process tracked last is the latest one that is alive. -/
theorem Balanced.alive_eq {others : List Tracked} {last : Tracked} (h : Balanced registry recorded)
    (htracked : registry.tracked = others ++ [last]) :
    alive recorded.record = (last.role, last.process) ::
      (others.map fun found => (found.role, found.process)).reverse := by
  rw [h.1, htracked, List.map_append, List.reverse_append]
  rfl

/-- Once it is dead the others are those that are alive. -/
theorem Balanced.bury {others : List Tracked} {last : Tracked} {deeds : List (Deed σ)}
    (h : Balanced registry recorded) (htracked : registry.tracked = others ++ [last])
    (hrecord : recorded'.record = recorded.record ++ deeds)
    (hdeeds : ∀ deed ∈ deeds, deed.isStart = false)
    (hdead : deeds.foldl Deed.update (alive recorded.record) =
      (alive recorded.record).eraseP (·.2 = last.process)) :
    Balanced { registry with tracked := others } recorded' := by
  refine ⟨?_, hrecord ▸ h.2.append hdeeds⟩
  rw [hrecord, alive_append, hdead, h.alive_eq htracked, List.eraseP_cons_of_pos (by simp)]

variable [Machine σ]

/-- A start is put on record, and for the machine it is the same. -/
theorem launch_recorded {line : CommandLine} {result : Except OsError Nat}
    (hlaunch : registry.launch line recorded = (result, recorded')) :
    recorded'.record = recorded.record ++ [.start recorded.machine
      { line with program := registry.programPath line.program } result] ∧
    registry.launch line recorded.machine = (result, recorded'.machine) := by
  obtain ⟨rfl, rfl⟩ := Prod.mk.inj hlaunch
  exact ⟨rfl, rfl⟩

theorem Balanced.started {line : CommandLine} {process : Nat} (h : Balanced registry recorded)
    (halone : line.role = .server → registry.tracked = [])
    (hlaunch : registry.launch line recorded = (.ok process, recorded')) :
    Balanced (registry.track line.role process) recorded' := by
  obtain ⟨halive, hnever⟩ := h
  have hrecord := (launch_recorded hlaunch).1
  have hnow : alive recorded'.record = (line.role, process) :: alive recorded.record := by
    rw [hrecord, alive_concat]
    rfl
  refine ⟨?_, ?_⟩
  · show _ = ((registry.tracked ++ [_]).map _).reverse
    rw [hnow, halive, List.map_append, List.reverse_append]
    rfl
  · have hone : OneServer (alive recorded'.record) := by
      rw [hnow, OneServer]
      cases hrole : line.role with
      | client => exact hnever _ (List.prefix_refl _)
      | server =>
          rw [halive, halone hrole]
          exact Nat.le_refl 1
    rw [hrecord] at hone ⊢
    exact hnever.concat hone

theorem Balanced.waited {others : List Tracked} {last : Tracked} (h : Balanced registry recorded)
    (htracked : registry.tracked = others ++ [last])
    (hothers : ∀ found ∈ others, found.id ≠ last.id) (millis : Nat) :
    Balanced { registry with tracked := others }
      (registry.wait last.id millis recorded).2.2 := by
  rcases Registry.wait_machine (Registry.take_last htracked hothers) millis recorded with
    ⟨⟨status, hended⟩, hmachine⟩ | ⟨hlives, hmachine⟩
  -- either it was seen to end, or it was killed after that
  · have hrecord : (Machine.await recorded last.process millis).2.record =
        recorded.record ++ [.await last.process
          (Machine.await recorded.machine last.process millis).1] := rfl
    rw [hmachine]
    refine h.bury htracked hrecord (List.forall_mem_singleton.mpr rfl) ?_
    change (Machine.await recorded.machine last.process millis).1 = .ended status at hended
    rw [hended]
    rfl
  · have hrecord : (Machine.kill (Machine.await recorded last.process millis).2
        last.process).record = recorded.record ++ [.await last.process
          (Machine.await recorded.machine last.process millis).1, .kill last.process] :=
      List.append_assoc _ _ _
    rw [hmachine]
    refine h.bury htracked hrecord ?_ ?_
    · intro deed hdeed
      rcases List.mem_pair.mp hdeed with rfl | rfl <;> rfl
    · change ∀ status, (Machine.await recorded.machine last.process millis).1 ≠ .ended status
        at hlives
      cases hresult : (Machine.await recorded.machine last.process millis).1 with
      | ended status => exact absurd hresult (hlives status)
      | failed | late => rfl

theorem Balanced.killed {others : List Tracked} {last : Tracked} (h : Balanced registry recorded)
    (htracked : registry.tracked = others ++ [last])
    (hothers : ∀ found ∈ others, found.id ≠ last.id) :
    Balanced { registry with tracked := others } (registry.kill last.id recorded).2 := by
  have hkill : (registry.kill last.id recorded).2 = Machine.kill recorded last.process := by
    rw [Registry.kill, Registry.take_last htracked hothers]
  rw [hkill]
  exact h.bury htracked rfl (List.forall_mem_singleton.mpr rfl) rfl

theorem Balanced.terminated (h : Balanced registry recorded) :
    Balanced { registry with tracked := [] } (registry.terminateAll recorded).2.2 := by
  have hrecord : (registry.terminateAll recorded).2.2.record =
      recorded.record ++ (registry.tracked.map Tracked.process).map .kill := by
    rw [← record_kills, List.foldl_map]
    rfl
  refine ⟨?_, ?_⟩
  · rw [hrecord]
    refine alive_append_kills _ ?_
    rw [h.1, List.map_reverse, List.map_map]
    exact List.reverse_perm _
  · rw [hrecord]
    exact h.2.append (List.forall_mem_map.mpr fun _ _ => rfl)

/-- **THE RECORD OF A MACHINE IS A LEDGER.** -/
def ledger (σ : Type) [Machine σ] : Ledger (Recorded σ) where
  Agrees := Balanced
  undisturbed h hmachine := by
    obtain ⟨deeds, hrecord, hdeeds⟩ := record_of_undisturbed hmachine
    refine ⟨?_, ?_⟩
    · rw [hrecord, alive_append_received _ hdeeds, h.1]
    · rw [hrecord]
      refine h.2.append fun deed hdeed => ?_
      obtain ⟨process, receipt, rfl⟩ := hdeeds deed hdeed
      rfl
  refused {registry recorded recorded' line e} h hlaunch := by
    have hrecord := (launch_recorded hlaunch).1
    have hsame : alive recorded'.record = alive recorded.record := by
      rw [hrecord, alive_concat]
      rfl
    refine ⟨hsame.trans h.1, ?_⟩
    have hone := h.2 _ (List.prefix_refl _)
    rw [← hsame, hrecord] at hone
    rw [hrecord]
    exact h.2.concat hone
  started h halone hlaunch := h.started halone hlaunch
  waited h htracked hothers millis := h.waited htracked hothers millis
  killed h htracked hothers := h.killed htracked hothers
  terminated h := h.terminated

end Recorded

namespace Session

variable {σ : Type} [Machine σ] {ledger : Ledger σ}

/-- The registry tracks the server that the session holds, if it holds one, and nothing else. -/
structure Accounted (ledger : Ledger σ) (s : Session σ) : Prop where
  tracked : s.registry.tracked = s.server.toList.map (·.entry .server)
  numbered : s.registry.Numbered
  agrees : ledger.Agrees s.registry s.machine

/-- The registry tracks one server and nothing else, whether or not the session holds it. -/
structure TracksOnly (ledger : Ledger σ) (s : Session σ) (server : Spawned) : Prop where
  tracked : s.registry.tracked = [server.entry .server]
  numbered : s.registry.Numbered
  agrees : ledger.Agrees s.registry s.machine

/-- The registry tracks one client beside the server that the session holds. -/
structure Visited (ledger : Ledger σ) (s : Session σ) (client : Spawned) : Prop where
  tracked : s.registry.tracked = s.server.toList.map (·.entry .server) ++ [client.entry .client]
  apart : ∀ server, s.server = some server → server.id ≠ client.id
  numbered : s.registry.Numbered
  agrees : ledger.Agrees s.registry s.machine

variable {s s' : Session σ}

/-! ## Session and registry agree -/

theorem accounted_new {stage : Stage} (brokenConsole : Bool) {machine : σ}
    (h : ledger.Agrees (.new stage.config.workDir stage.config.timeouts.readMillis) machine) :
    Accounted ledger (Session.new stage brokenConsole machine) :=
  ⟨rfl, nofun, h⟩

theorem Accounted.frame (h : Accounted ledger s) (hregistry : s'.registry = s.registry)
    (hserver : s'.server = s.server) (hmachine : Machine.Undisturbed s.machine s'.machine) :
    Accounted ledger s' where
  tracked := by rw [hregistry, hserver, h.tracked]
  numbered := hregistry ▸ h.numbered
  agrees := hregistry ▸ ledger.undisturbed h.agrees hmachine

theorem Accounted.tracksOnly (h : Accounted ledger s) {server : Spawned}
    (hserver : s.server = some server) : TracksOnly ledger s server where
  tracked := by rw [h.tracked, hserver]; rfl
  numbered := h.numbered
  agrees := h.agrees

theorem numbered_clear (registry : Registry) :
    Registry.Numbered { registry with tracked := [] } := nofun

/-! ## A server that is not held -/

/-- Where no server is held none is tracked, so that another one may be started. -/
theorem Accounted.track (h : Accounted ledger s) (hnone : s.server = none) {line : CommandLine}
    (hrole : line.role = .server) {process : Nat} {machine : σ}
    (hlaunch : s.registry.launch line s.machine = (.ok process, machine)) :
    TracksOnly ledger
      { s with registry := s.registry.track .server process, machine := machine }
      ⟨⟨s.registry.nextId⟩, process, .fresh⟩ := by
  have hempty : s.registry.tracked = [] := by
    rw [h.tracked, hnone]
    rfl
  refine ⟨?_, Registry.numbered_track h.numbered .server process, ?_⟩
  · show s.registry.tracked ++ [_] = _
    rw [hempty]
    rfl
  · have hagrees := ledger.started h.agrees (fun _ => hempty) hlaunch
    rwa [hrole] at hagrees

theorem TracksOnly.frame {server server' : Spawned} (h : TracksOnly ledger s server)
    (hregistry : s'.registry = s.registry) (hentry : server'.entry .server = server.entry .server)
    (hmachine : Machine.Undisturbed s.machine s'.machine) : TracksOnly ledger s' server' where
  tracked := by rw [hregistry, hentry, h.tracked]
  numbered := hregistry ▸ h.numbered
  agrees := hregistry ▸ ledger.undisturbed h.agrees hmachine

/-- Once it is held, session and registry agree. -/
theorem TracksOnly.hold {server : Spawned} (h : TracksOnly ledger s server) :
    Accounted ledger { s with server := some server } := ⟨h.tracked, h.numbered, h.agrees⟩

theorem TracksOnly.last {server : Spawned} (h : TracksOnly ledger s server) :
    s.registry.tracked = [] ++ [server.entry .server] := h.tracked

theorem TracksOnly.take {server : Spawned} (h : TracksOnly ledger s server) :
    s.registry.take server.id = some (server.entry .server, { s.registry with tracked := [] }) :=
  Registry.take_last h.last nofun

/-- Once it is given up, nothing is tracked. -/
theorem TracksOnly.forget {server : Spawned} (h : TracksOnly ledger s server) :
    s.registry.forget server.id = { s.registry with tracked := [] } :=
  Registry.forget_of_take h.take

/-! ## A client beside the server -/

theorem Accounted.visit (h : Accounted ledger s) {line : CommandLine} (hrole : line.role = .client)
    {process : Nat} {machine : σ}
    (hlaunch : s.registry.launch line s.machine = (.ok process, machine)) :
    Visited ledger { s with registry := s.registry.track .client process, machine := machine }
      ⟨⟨s.registry.nextId⟩, process, .fresh⟩ where
  tracked := by
    show s.registry.tracked ++ [_] = _
    rw [h.tracked]
    rfl
  apart server hs := by
    have hmem : server.entry .server ∈ s.registry.tracked := by
      rw [h.tracked, (hs : s.server = some server)]
      exact List.mem_singleton_self _
    exact fun heq => Nat.ne_of_lt (h.numbered _ hmem) (congrArg ProcessId.number heq)
  numbered := Registry.numbered_track h.numbered .client process
  agrees := by
    have hagrees := ledger.started h.agrees (fun hserver => nomatch hrole.symm.trans hserver) hlaunch
    rwa [hrole] at hagrees

theorem Visited.frame {client client' : Spawned} (h : Visited ledger s client)
    (hregistry : s'.registry = s.registry) (hserver : s'.server = s.server)
    (hentry : client'.entry .client = client.entry .client)
    (hmachine : Machine.Undisturbed s.machine s'.machine) : Visited ledger s' client' where
  tracked := by rw [hregistry, hserver, hentry, h.tracked]
  apart server hs := by
    have hid : client'.id = client.id := congrArg Tracked.id hentry
    rw [hid]
    exact h.apart server (hserver ▸ hs)
  numbered := hregistry ▸ h.numbered
  agrees := hregistry ▸ ledger.undisturbed h.agrees hmachine

theorem Visited.others {client : Spawned} (h : Visited ledger s client) :
    ∀ found ∈ s.server.toList.map (·.entry .server), found.id ≠ client.id := by
  intro found hfound
  obtain ⟨server, hserver, rfl⟩ := List.mem_map.mp hfound
  exact h.apart server (Option.mem_toList.mp hserver)

theorem Visited.take {client : Spawned} (h : Visited ledger s client) :
    s.registry.take client.id =
      some (client.entry .client,
        { s.registry with tracked := s.server.toList.map (·.entry .server) }) :=
  Registry.take_last h.tracked h.others

theorem Visited.forget {client : Spawned} (h : Visited ledger s client) :
    s.registry.forget client.id =
      { s.registry with tracked := s.server.toList.map (·.entry .server) } :=
  Registry.forget_of_take h.take

/-! ## Operations -/

/-- Session and registry agree at the end. -/
abbrev Keeps {α : Type} (ledger : Ledger σ) (act : Run σ α) (s : Session σ) : Prop :=
  Ends act s fun _ s' => Accounted ledger s'

theorem keeps_pure {α : Type} (h : Accounted ledger s) (a : α) : Keeps ledger (pure a) s := h

theorem keeps_aside {α : Type} {act : Run σ α} (hact : Aside act) (h : Accounted ledger s) :
    Keeps ledger act s :=
  h.frame (hact.registry s) (hact.server s) (hact.machine s)

theorem keeps_bind {α β : Type} {act : Run σ α} {next : α → Run σ β} (hact : Keeps ledger act s)
    (hnext : ∀ a s', Accounted ledger s' → Keeps ledger (next a) s') :
    Keeps ledger (act >>= next) s :=
  ends_bind hact hnext

theorem stopServer_accounted (h : Accounted ledger s) :
    Ends stopServer s fun _ s' => Accounted ledger s' ∧ s'.server = none := by
  cases hserver : s.server with
  | none =>
      rw [Ends, after_stopServer_none hserver]
      exact ⟨h, hserver⟩
  | some server =>
      have htracks := h.tracksOnly hserver
      rw [Ends, after_stopServer_some hserver, htracks.forget]
      exact ⟨⟨rfl, numbered_clear _, ledger.killed h.agrees htracks.last (List.forall_mem_nil _)⟩,
        rfl⟩

/-- A server that is started is tracked alone. -/
theorem spawn_server (h : Accounted ledger s) (hnone : s.server = none) {line : CommandLine}
    (hrole : line.role = .server) :
    Ends (spawn .server line) s fun result s' =>
      (∃ e, result = .error e ∧ Accounted ledger s') ∨
      ∃ server, result = .ok server ∧ TracksOnly ledger s' server :=
  ends_spawn
    (fun _ _ hlaunch => Or.inl ⟨_, rfl, h.tracked, h.numbered, ledger.refused h.agrees hlaunch⟩)
    fun _ _ hlaunch => Or.inr ⟨_, rfl, h.track hnone hrole hlaunch⟩

/-- A client that is started visits the session. -/
theorem spawn_client (h : Accounted ledger s) {line : CommandLine} (hrole : line.role = .client) :
    Ends (spawn .client line) s fun result s' =>
      (∃ e, result = .error e ∧ Accounted ledger s') ∨
      ∃ client, result = .ok client ∧ Visited ledger s' client :=
  ends_spawn
    (fun _ _ hlaunch => Or.inl ⟨_, rfl, h.tracked, h.numbered, ledger.refused h.agrees hlaunch⟩)
    fun _ _ hlaunch => Or.inr ⟨_, rfl, h.visit hrole hlaunch⟩

/-- **A server is started when nothing is tracked**, and the one that was started is the one that is
    held. -/
theorem keeps_startServer (h : Accounted ledger s) (description : String) (banner : Banner) :
    Keeps ledger (startServer description banner) s := by
  refine ends_bind (stopServer_accounted h) fun _ s₁ ⟨h₁, hnone⟩ => ends_get ?_
  refine ends_aside (aside_print _) fun _ s₂ _ hr₂ hs₂ hm₂ => ?_
  have h₂ := h₁.frame hr₂ hs₂ hm₂
  refine ends_aside (aside_note _) fun _ s₃ _ hr₃ hs₃ hm₃ => ?_
  have h₃ := h₂.frame hr₃ hs₃ hm₃
  have hnone₃ : s₃.server = none := by rw [hs₃, hs₂, hnone]
  refine ends_bind (spawn_server h₃ hnone₃ (ServerSpec.role_commandLine _)) ?_
  rintro result s₄ (⟨e, rfl, h₄⟩ | ⟨server, rfl, h₄⟩)
  · exact keeps_bind (keeps_aside (aside_record _) h₄) fun _ _ h => keeps_pure h _
  · refine ends_aside (aside_readLines _ server) fun seen s₅ hseen hr₅ _ hm₅ => ?_
    have h₅ := h₄.frame hr₅ (hseen ▸ entry_readLines _ _ _ _) hm₅
    refine ends_aside (aside_recordAll _) fun _ s₆ _ hr₆ _ hm₆ => ?_
    have h₆ := h₅.frame hr₆ rfl hm₆
    refine ends_aside (aside_checkReady _) fun ready s₇ hready hr₇ _ hm₇ => ?_
    have h₇ := h₆.frame hr₇ (hready ▸ entry_checkReady _ _ _) hm₇
    -- reading changed the output of the server only: the handle that is held is the one tracked
    exact ends_step (keeps_pure h₇.hold _)

/-- Reading the connections of the held server changes its unread output only. -/
theorem keeps_consumeConnections (h : Accounted ledger s) (count : Nat) :
    Keeps ledger (consumeConnections count) s := by
  refine ends_get ?_
  cases hserver : s.server with
  | none => exact keeps_pure h ()
  | some server =>
      refine ends_aside (aside_readConnections count server) fun anomalies s₁ hanomalies hr₁ _ hm₁ => ?_
      have h₁ := (h.tracksOnly hserver).frame hr₁ (hanomalies ▸ entry_readConnections _ _ _ _) hm₁
      exact ends_step (keeps_aside (aside_recordAll _) h₁.hold)

/-- Whatever comes of the wait for its end, the server is not tracked afterwards. -/
theorem keeps_awaitEnd {server : Spawned} (h : TracksOnly ledger s server) (hnone : s.server = none) :
    Keeps ledger (awaitEnd server) s := by
  refine ends_step ?_
  rw [after_wait, h.forget]
  have h₁ : Accounted ledger { s with
      registry := { s.registry with tracked := [] }
      machine := (s.registry.wait server.id s.stage.config.timeouts.shutdownMillis
        s.machine).2.2 } :=
    ⟨by rw [hnone]; rfl, numbered_clear _, ledger.waited h.agrees h.last nofun _⟩
  cases (wait server.id).value s with
  | ok status => exact keeps_pure h₁ true
  | error e => exact keeps_bind (keeps_aside (aside_record _) h₁) fun _ _ h => keeps_pure h false

theorem keeps_awaitServer (h : Accounted ledger s) (description : String) :
    Keeps ledger (awaitServer description) s := by
  refine ends_get ?_
  cases hserver : s.server with
  | none => exact keeps_bind (keeps_aside (aside_record _) h) fun _ _ h => keeps_pure h _
  | some server =>
      -- the session lets go of the server first, and is accounted for again after the wait
      refine ends_step ?_
      have h₁ : TracksOnly ledger { s with server := none } server :=
        (h.tracksOnly hserver).frame rfl rfl .refl
      refine ends_aside (aside_readConnection server) fun read s₂ hread hr₂ hs₂ hm₂ => ?_
      have h₂ := h₁.frame hr₂ (hread ▸ entry_readConnection _ _ _) hm₂
      refine ends_aside (aside_recordAll _) fun _ s₃ _ hr₃ hs₃ hm₃ => ?_
      have h₃ := h₂.frame hr₃ rfl hm₃
      refine ends_aside (aside_readLine _) fun last s₄ hlast hr₄ hs₄ hm₄ => ?_
      have h₄ := h₃.frame hr₄ (hlast ▸ entry_readLine _ _ _) hm₄
      refine ends_aside (aside_recordVerdict _) fun _ s₅ _ hr₅ hs₅ hm₅ => ?_
      have h₅ := h₄.frame hr₅ rfl hm₅
      have hnone : s₅.server = none := by rw [hs₅, hs₄, hs₃, hs₂]; rfl
      exact keeps_bind (keeps_awaitEnd h₅ hnone) fun _ _ h => keeps_pure h _

/-! ## Clients -/

/-- Either no client was started, or the session is visited by it. -/
theorem ends_launchClient (h : Accounted ledger s) (description expected : String)
    (request : Request) :
    Ends (launchClient description expected request) s fun result s' =>
      (result = none ∧ Accounted ledger s') ∨
      ∃ client connections, result = some (client, connections) ∧ Visited ledger s' client := by
  refine ends_get (ends_get ?_)
  refine ends_aside (aside_print _) fun _ s₁ _ hr₁ hs₁ hm₁ => ?_
  have h₁ := h.frame hr₁ hs₁ hm₁
  refine ends_bind (spawn_client h₁ (ClientSpec.role_commandLine _ request)) ?_
  rintro result s₂ (⟨e, rfl, h₂⟩ | ⟨client, rfl, h₂⟩)
  · refine ends_bind (keeps_aside (aside_record _) h₂) fun _ s₃ h₃ => ?_
    exact ends_pure _ (Or.inl ⟨rfl, h₃⟩)
  · exact ends_pure _ (Or.inr ⟨client, _, rfl, h₂⟩)

/-- Whatever comes of the wait for its end, the client is not tracked afterwards. -/
theorem keeps_finishClient {client : Spawned} (h : Visited ledger s client) (connections : Nat) :
    Keeps ledger (finishClient client connections) s := by
  refine ends_step ?_
  rw [after_wait, h.forget]
  -- in time, late or failed: the wait gives the handle up
  have h₁ : Accounted ledger { s with
      registry := { s.registry with tracked := s.server.toList.map (·.entry .server) }
      machine := (s.registry.wait client.id s.stage.config.timeouts.shutdownMillis
        s.machine).2.2 } := by
    refine ⟨rfl, ?_, ledger.waited h.agrees h.tracked h.others _⟩
    intro found hfound
    exact h.numbered found (h.tracked ▸ List.mem_append_left _ hfound)
  cases (wait client.id).value s with
  | ok status => exact keeps_consumeConnections h₁ connections
  | error e =>
      exact keeps_bind (keeps_aside (aside_record _) h₁) fun _ _ h =>
        keeps_consumeConnections h connections

theorem keeps_run (h : Accounted ledger s) (description : String) (expect : Reply)
    (request : Request) : Keeps ledger (run description expect request) s := by
  refine ends_bind (ends_launchClient h description expect.token request) ?_
  rintro result s₁ (⟨rfl, h₁⟩ | ⟨client, connections, rfl, h₁⟩)
  · exact keeps_pure h₁ false
  · refine ends_aside (aside_readLine client) fun seen s₂ hseen hr₂ hs₂ hm₂ => ?_
    have h₂ := h₁.frame hr₂ hs₂ (hseen ▸ entry_readLine _ _ _) hm₂
    refine ends_aside (aside_recordVerdict _) fun _ s₃ _ hr₃ hs₃ hm₃ => ?_
    have h₃ := h₂.frame hr₃ hs₃ rfl hm₃
    exact keeps_bind (keeps_finishClient h₃ connections) fun _ _ h => keeps_pure h _

theorem keeps_runLines (h : Accounted ledger s) (description : String) (expected : List String)
    (order : ListOrder) (request : Request) :
    Keeps ledger (runLines description expected order request) s := by
  refine ends_bind (ends_launchClient h description (expected.head?.getD "") request) ?_
  rintro result s₁ (⟨rfl, h₁⟩ | ⟨client, connections, rfl, h₁⟩)
  · exact keeps_pure h₁ false
  · refine ends_aside (aside_readLines _ client) fun seen s₂ hseen hr₂ hs₂ hm₂ => ?_
    have h₂ := h₁.frame hr₂ hs₂ (hseen ▸ entry_readLines _ _ _ _) hm₂
    refine ends_aside (aside_recordAll _) fun _ s₃ _ hr₃ hs₃ hm₃ => ?_
    have h₃ := h₂.frame hr₃ hs₃ rfl hm₃
    exact keeps_bind (keeps_finishClient h₃ connections) fun _ _ h => keeps_pure h _

/-! ## Every operation -/

theorem keeps_terminateAll (h : Accounted ledger s) : Keeps ledger terminateAll s := by
  rw [Keeps, Ends, after_terminateAll]
  exact ⟨rfl, numbered_clear _, ledger.terminated h.agrees⟩

theorem keeps_perform (h : Accounted ledger s) (step : Step) : Keeps ledger (perform step) s := by
  cases step with
  | begin title => exact keeps_aside (aside_bind (aside_begin title) fun _ => aside_pure _) h
  | clean => exact keeps_aside (aside_bind aside_cleanGenerated fun _ => aside_pure _) h
  | start description banner =>
      exact keeps_bind (keeps_startServer h description banner) fun _ _ h => keeps_pure h _
  | run description expect request =>
      exact keeps_bind (keeps_run h description expect request) fun _ _ h => keeps_pure h _
  | awaitServer description =>
      exact keeps_bind (keeps_awaitServer h description) fun _ _ h => keeps_pure h _
  | existence file shouldExist =>
      exact keeps_aside (aside_bind (aside_checkExistence file shouldExist) fun _ => aside_pure _) h
  | fetched source user =>
      exact keeps_aside (aside_bind (aside_checkFetched source user) fun _ => aside_pure _) h
  | list file expected order =>
      exact keeps_aside (aside_bind (aside_checkList file expected order) fun _ => aside_pure _) h
  | size file expected =>
      exact keeps_aside (aside_bind (aside_checkSize file expected) fun _ => aside_pure _) h
  | peek file offset expected =>
      exact keeps_aside (aside_bind (aside_checkPeek file offset expected) fun _ => aside_pure _) h
  | directory file expected =>
      exact keeps_aside (aside_bind (aside_checkDirectory file expected) fun _ => aside_pure _) h
  | make file size => exact keeps_aside (aside_makeFile file _) h
  | remove file => exact keeps_aside (aside_bind (aside_dropFile file) fun _ => aside_pure _) h

theorem keeps_operate (h : Accounted ledger s) (operation : Operation) :
    Keeps ledger (operate operation) s := by
  cases operation with
  | step step => exact keeps_bind (keeps_perform h step) fun _ _ h => keeps_pure h ()
  | runLines description expected order request =>
      exact keeps_bind (keeps_runLines h description expected order request) fun _ _ h =>
        keeps_pure h ()
  | stopServer => exact (stopServer_accounted h).1
  | killProcesses =>
      refine keeps_bind (keeps_bind (keeps_terminateAll h) fun _ _ h => ?_) fun _ _ h => keeps_pure h ()
      exact keeps_bind (keeps_aside (aside_print _) h) fun _ _ h => keeps_pure h _
  | record outcome => exact keeps_aside (aside_record outcome) h
  | note text => exact keeps_aside (aside_note text) h
  | restage stage => exact ⟨h.tracked, h.numbered, h.agrees⟩

/-- **Every ledger is kept by every run.** -/
theorem keeps_operateAll (h : Accounted ledger s) (operations : List Operation) :
    Keeps ledger (operateAll operations) s := by
  induction operations generalizing s with
  | nil => exact keeps_pure h ()
  | cons operation rest ih => exact keeps_bind (keeps_operate h operation) fun _ _ h => ih h

/-- What the registry of a session tracks is at most the server, so its order is of no account. -/
theorem Accounted.reverse_tracked {α : Type} (h : Accounted ledger s) (f : Tracked → α) :
    (s.registry.tracked.map f).reverse = s.registry.tracked.map f := by
  rw [h.tracked]
  cases s.server <;> rfl

end Session

end Conformance
