import Conformance.Proofs.Session.Exchange

/-!
# Reading a server that keeps its word

What a session reads of such a server is what it expects, so no line of a connection is ever recorded as
out of place. `Orderly` says that none was so far; it is kept by recording anything else, since no other
outcome can be mistaken for one of those (`Outcome.Ordinary`). Each action that reads is described by
what it returns and by the lines that are still to be read after it.
-/

namespace Conformance

open LineReader (Plain)

/-! ## Outcomes that are not about a connection -/

/-- An outcome that was not recorded for a line out of place in a connection. -/
def Outcome.Ordinary (outcome : Outcome) : Prop :=
  ∀ expected seen, outcome ≠ Expectation.misplaced expected seen

theorem ordinary_compare (description expected actual : String) :
    (Outcome.compare description expected actual).Ordinary :=
  fun _ _ h => nomatch congrArg Outcome.kind h

theorem ordinary_lines (description : String) (expected : List String) (order : ListOrder)
    (seen : List ReadLine) :
    ∀ outcome ∈ Expectation.lines description expected order seen, outcome.Ordinary := by
  intro outcome h
  obtain ⟨index, _, rfl⟩ := List.mem_mapIdx.mp h
  exact ordinary_compare _ _ _

theorem head_spawn_message (program : Path) (e : OsError) :
    (Fault.spawn program e).message.toList.head? = some 'f' := by
  show ("failed to spawn " ++ program ++ ": " ++ e.message).toList.head? = _
  rw [String.toList_append, String.toList_append, String.toList_append]
  rfl

theorem head_shownMisplaced (seen : ReadLine) :
    (Expectation.shownMisplaced seen).toList.head? = some 'U' := by
  cases seen with
  | line text =>
      show ("Unexpected server output: " ++ text).toList.head? = _
      rw [String.toList_append]
      rfl
  | eof => rfl
  | timedOut => rfl

/-- That a program cannot be started is shown in other words than a line out of place. -/
theorem ordinary_launch (description expected : String) (program : Path) (e : OsError) :
    (Outcome.infrastructure description expected (Fault.spawn program e).message).Ordinary := by
  intro _ seen h
  have hhead := congrArg (fun outcome => outcome.actual.toList.head?) h
  have hchar : some 'f' = some 'U' :=
    (head_spawn_message program e).symm.trans (hhead.trans (head_shownMisplaced seen))
  exact absurd hchar (by decide)

theorem ordinary_exit (expected actual : String) :
    (Outcome.infrastructure "  Client exit" expected actual).Ordinary := by
  intro _ _ h
  have hdescription : "  Client exit" = "Server handshake" := congrArg Outcome.description h
  exact absurd hdescription (by decide)

/-- Lines that are printed as they are expected all pass. -/
theorem passed_lines (description : String) (expected : List String) :
    (Expectation.lines description expected .asEmitted (expected.map .line)).all (·.passed) =
      true := by
  have hactual : (expected.map ReadLine.line).map ReadLine.actual = expected := by
    rw [List.map_map]
    exact List.map_id expected
  rw [Expectation.lines, hactual, List.all_eq_true]
  intro outcome h
  obtain ⟨index, hindex, rfl⟩ := List.mem_mapIdx.mp h
  rw [List.getElem_zip]
  exact decide_eq_true rfl

namespace Session

variable {σ α β : Type} {config : Config} {s s' : Session σ}

/-! ## What every action keeps -/

/-- A session of a configuration in which no line of a connection was out of place. -/
structure Orderly (config : Config) (s : Session σ) : Prop where
  configured : s.stage.config = config
  workDir : s.registry.workDir = config.workDir
  ordinary : ∀ outcome ∈ s.report.outcomes, outcome.Ordinary

theorem orderly_new (stage : Stage) (brokenConsole : Bool) (machine : σ) :
    Orderly stage.config (Session.new stage brokenConsole machine) :=
  ⟨rfl, rfl, fun _ h => nomatch h⟩

theorem Orderly.frame (h : Orderly config s) (hstage : s'.stage = s.stage)
    (hworkDir : s'.registry.workDir = s.registry.workDir)
    (hreport : s'.report = s.report) : Orderly config s' where
  configured := hstage ▸ h.configured
  workDir := hworkDir.trans h.workDir
  ordinary := hreport ▸ h.ordinary

theorem orderly_record (h : Orderly config s) {outcome : Outcome} (hordinary : outcome.Ordinary) :
    Orderly config ((record outcome : Run σ Unit).after s) := by
  refine ⟨h.configured, h.workDir, ?_⟩
  show ∀ o ∈ (s.report.record outcome).outcomes, o.Ordinary
  intro o ho
  rw [Report.outcomes_record] at ho
  rcases List.mem_append.mp ho with ho | ho
  · exact h.ordinary o ho
  · exact List.mem_singleton.mp ho ▸ hordinary

theorem orderly_recordAll (h : Orderly config s) (outcomes : List Outcome)
    (hordinary : ∀ outcome ∈ outcomes, outcome.Ordinary) :
    Orderly config ((recordAll outcomes : Run σ Unit).after s) := by
  induction outcomes generalizing s with
  | nil => exact h
  | cons outcome rest ih =>
      exact ih (orderly_record h (hordinary outcome List.mem_cons_self)) fun o ho =>
        hordinary o (List.mem_cons_of_mem _ ho)

/-- Outcomes are recorded without touching the machine. -/
theorem machine_recordAll (outcomes : List Outcome) (s : Session σ) :
    ((recordAll outcomes : Run σ Unit).after s).machine = s.machine := by
  induction outcomes generalizing s with
  | nil => rfl
  | cons outcome rest ih => exact ih _

/-! ## Reading the server -/

variable [Machine σ] {promise : Promise σ} {s : Session (Rehearsal promise)} {server : Spawned}
  {now : Serving} {lines : List String}

theorem readLine_server (h : Orderly config s) {line : String} (hline : Plain line)
    (hawaiting : Awaiting s.machine server now (line :: lines)) :
    Ends (readLine server) s fun read s' =>
      read.1 = .line line ∧ Orderly config s' ∧ Awaiting s'.machine read.2 now lines := by
  obtain ⟨hvalue, hafter⟩ := hawaiting.readLine hline
  exact ⟨hvalue, h.frame rfl rfl rfl, hafter⟩

theorem readLines_server (h : Orderly config s) {taken : List String}
    (hplain : ∀ line ∈ taken, Plain line)
    (hawaiting : Awaiting s.machine server now (taken ++ lines)) :
    Ends (readLines taken.length server) s fun read s' =>
      read.1 = taken.map .line ∧ Orderly config s' ∧ Awaiting s'.machine read.2 now lines := by
  obtain ⟨hvalue, hafter⟩ := hawaiting.readLines taken hplain
  exact ⟨hvalue, h.frame rfl rfl rfl, hafter⟩

theorem peekLine_server (h : Orderly config s) {line : String} (hline : Plain line)
    (hawaiting : Awaiting s.machine server now (line :: lines)) :
    Ends (peekLine server) s fun read s' =>
      read.1 = .line line ∧ Orderly config s' ∧
        Awaiting s'.machine read.2 now (line :: lines) := by
  obtain ⟨hvalue, hafter⟩ := hawaiting.peekLine hline
  exact ⟨hvalue, h.frame rfl rfl rfl, hafter⟩

theorem checkReady_server (h : Orderly config s)
    (hawaiting : Awaiting s.machine server now (waitingLine :: lines)) :
    Ends (checkReady server) s fun ready s' =>
      ready.1 = true ∧ Orderly config s' ∧
        Awaiting s'.machine ready.2 now (waitingLine :: lines) := by
  refine ends_bind (peekLine_server h plain_waitingLine hawaiting) ?_
  rintro ⟨seen, server₁⟩ s₁ ⟨hseen, h₁, hawaiting₁⟩
  obtain rfl : seen = .line waitingLine := hseen
  show Ends (if waitingLine = waitingLine then _ else _) s₁ _
  rw [if_pos rfl]
  exact ⟨rfl, h₁, hawaiting₁⟩

theorem recordAll_server (h : Orderly config s) {outcomes : List Outcome}
    (hordinary : ∀ outcome ∈ outcomes, outcome.Ordinary)
    (hawaiting : Awaiting s.machine server now lines) :
    Ends (recordAll outcomes) s fun _ s' =>
      Orderly config s' ∧ Awaiting s'.machine server now lines := by
  refine ⟨orderly_recordAll h outcomes hordinary, ?_⟩
  rw [machine_recordAll]
  exact hawaiting

theorem handshake_eq_nil {connected : String} (h : isConnectedLine connected = true) :
    Expectation.handshake (.line waitingLine) (.line connected) = [] := by
  show (if waitingLine = waitingLine then [] else _) ++
    (if isConnectedLine connected = true then [] else _) = []
  rw [if_pos rfl, if_pos h]
  rfl

/-- **A connection of a server that keeps its word leaves nothing to record.** -/
theorem readConnection_server (h : Orderly config s) {connected : String} (hplain : Plain connected)
    (hconnected : isConnectedLine connected = true)
    (hawaiting : Awaiting s.machine server now (waitingLine :: connected :: lines)) :
    Ends (readConnection server) s fun read s' =>
      read.1 = [] ∧ Orderly config s' ∧ Awaiting s'.machine read.2 now lines := by
  refine ends_bind (readLine_server h plain_waitingLine hawaiting) ?_
  rintro ⟨waiting, server₁⟩ s₁ ⟨hwaiting, h₁, hawaiting₁⟩
  refine ends_bind (readLine_server h₁ hplain hawaiting₁) ?_
  rintro ⟨next, server₂⟩ s₂ ⟨hnext, h₂, hawaiting₂⟩
  obtain rfl : waiting = .line waitingLine := hwaiting
  obtain rfl : next = .line connected := hnext
  exact ⟨handshake_eq_nil hconnected, h₂, hawaiting₂⟩

theorem readConnections_server (h : Orderly config s) (count : Nat)
    (hawaiting : Awaiting s.machine server now (handshakes count ++ lines)) :
    Ends (readConnections count server) s fun read s' =>
      read.1 = [] ∧ Orderly config s' ∧ Awaiting s'.machine read.2 now lines := by
  induction count generalizing s server with
  | zero => exact ⟨rfl, h, hawaiting⟩
  | succ n ih =>
      refine ends_bind (readConnection_server h plain_connectedLine isConnectedLine_connectedLine
        hawaiting) ?_
      rintro ⟨first, server₁⟩ s₁ ⟨hfirst, h₁, hawaiting₁⟩
      refine ends_bind (ih h₁ hawaiting₁) ?_
      rintro ⟨rest, server₂⟩ s₂ ⟨hrest, h₂, hawaiting₂⟩
      obtain rfl : first = [] := hfirst
      exact ⟨hrest, h₂, hawaiting₂⟩

/-- With the connections that were expected, nothing is recorded. -/
theorem consumeConnections_server (h : Orderly config s) (count : Nat)
    (hserver : s.server = some server)
    (hawaiting : Awaiting s.machine server now (handshakes count ++ lines)) :
    Ends (consumeConnections count) s fun _ s' =>
      Orderly config s' ∧
      ∃ server', s'.server = some server' ∧ Awaiting s'.machine server' now lines := by
  refine ends_get ?_
  rw [hserver]
  refine ends_bind (readConnections_server h count hawaiting) ?_
  rintro ⟨anomalies, server'⟩ s₁ ⟨hnone, h₁, hawaiting₁⟩
  obtain rfl : anomalies = [] := hnone
  exact ⟨h₁.frame rfl rfl rfl, server', rfl, hawaiting₁⟩

end Session

end Conformance
