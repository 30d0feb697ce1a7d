import Conformance.Proofs.LineReader.Lines
import Conformance.Proofs.Session.Simulation

/-!
# A server that keeps its word

What a session may expect of a proper server and of proper clients. The server prints its banner, then a
pair of lines for every connection, and, once a client that it knows has asked it to, three last lines
before it ends. A client makes one connection, and one more before it if it lacks the server's key.
Everything happens in time.

Whether all this was so is seen from the record of a machine. A `Promise` follows the record deed by deed:
the `Scene` is what the deeds so far come to, and every further deed must be one that `Fits` it. Nothing
is asked of a machine but that: when pieces of output arrive and where they are cut, what clients print,
which clients can be started and what becomes of the files is left open.

A `Rehearsal` is the machine with the scene beside it. It answers as the machine does as long as that fits
the scene, and else as was promised. So on it the promise is kept whatever happens, and it is the same as
the machine for as long as the promise is kept there (`Promise.rehearsed`).
-/

namespace Conformance

open LineReader (Plain OneLine wire oneLine_append oneLine_decimal)

/-! ## What the server prints -/

/-- Printed after a connection from a client. -/
def connectedLine : String := connectedPrefix ++ "127.0.0.1"

/-- Printed after the connection that wakes the server for its end. -/
def shutdownLine : String := connectedPrefix ++ "0.0.0.0"

/-- The lines of a number of connections. -/
def handshakes : Nat → List String
  | 0 => []
  | n + 1 => waitingLine :: connectedLine :: handshakes n

/-- The lines behind those of all connections so far. -/
def lastLines (ended : Bool) : List String :=
  if ended then [waitingLine, shutdownLine, terminatedLine] else [waitingLine]

/-- A server that was started: its process, the connections that it has had or is about to have, and
    whether the last of them ends it. -/
structure Serving where
  process : Nat
  connections : Nat
  ended : Bool
deriving DecidableEq, Repr

/-- Everything that the server prints until it has to wait for something new. -/
def Serving.printed (now : Serving) (config : Config) (banner : Banner) : List String :=
  banner.lines config.server ++ handshakes now.connections ++ lastLines now.ended

theorem handshakes_add (m n : Nat) : handshakes (m + n) = handshakes m ++ handshakes n := by
  induction m with
  | zero => rw [Nat.zero_add]; rfl
  | succ m ih =>
      rw [Nat.succ_add, handshakes, ih]
      rfl

/-- A server that runs goes on printing behind its last line when a client connects. -/
theorem Serving.printed_connected {now : Serving} (hup : now.ended = false) (n : Nat) (ended : Bool)
    (config : Config) (banner : Banner) :
    (⟨now.process, now.connections + (n + 1), ended⟩ : Serving).printed config banner =
      now.printed config banner ++ connectedLine :: (handshakes n ++ lastLines ended) := by
  show banner.lines config.server ++ handshakes (now.connections + (n + 1)) ++ lastLines ended = _
  rw [Serving.printed, hup, handshakes_add]
  simp only [List.append_assoc, lastLines, Bool.false_eq_true, if_false]
  rfl

theorem plain_waitingLine : Plain waitingLine := ⟨by decide, by decide⟩

theorem plain_connectedLine : Plain connectedLine := ⟨by decide, by decide⟩

theorem plain_shutdownLine : Plain shutdownLine := ⟨by decide, by decide⟩

theorem plain_terminatedLine : Plain terminatedLine := ⟨by decide, by decide⟩

theorem oneLine_listeningLine (spec : ServerSpec) (hstem : OneLine spec.keyFileStem)
    (hfile : OneLine spec.directoryFile) : OneLine spec.listeningLine :=
  oneLine_append (oneLine_append (oneLine_append (oneLine_append (oneLine_append (oneLine_append
    ⟨by decide, by decide⟩ (oneLine_decimal _)) ⟨by decide, by decide⟩) hstem)
    ⟨by decide, by decide⟩) hfile) ⟨by decide, by decide⟩

theorem oneLine_generatingKeysLine (spec : ServerSpec) (hstem : OneLine spec.keyFileStem) :
    OneLine spec.generatingKeysLine := by
  have hpublic : OneLine spec.publicKeyPath := oneLine_append hstem ⟨by decide, by decide⟩
  have hprivate : OneLine spec.privateKeyPath := oneLine_append hstem ⟨by decide, by decide⟩
  exact oneLine_append (oneLine_append (oneLine_append (oneLine_append
    ⟨by decide, by decide⟩ hpublic) ⟨by decide, by decide⟩) hprivate) ⟨by decide, by decide⟩

/-- With plain names of files every line of every banner is plain. -/
theorem plain_banner (spec : ServerSpec) (hstem : OneLine spec.keyFileStem)
    (hfile : OneLine spec.directoryFile) (banner : Banner) :
    ∀ line ∈ banner.lines spec, Plain line := by
  have hlistening := (oneLine_listeningLine spec hstem hfile).plain
  have hgenerating := (oneLine_generatingKeysLine spec hstem).plain
  have hnotFound : Plain spec.fileNotFoundLine := (oneLine_append ⟨by decide, by decide⟩ hfile).plain
  have hloaded : Plain spec.loadedLine := (oneLine_append ⟨by decide, by decide⟩ hfile).plain
  intro line hline
  cases banner with
  | fresh =>
      rcases List.mem_cons.mp hline with rfl | hline
      · exact hlistening
      · rcases List.mem_cons.mp hline with rfl | hline
        · exact hgenerating
        · exact List.mem_singleton.mp hline ▸ hnotFound
  | freshKeysExisting =>
      rcases List.mem_cons.mp hline with rfl | hline
      · exact hlistening
      · exact List.mem_singleton.mp hline ▸ hnotFound
  | warm =>
      rcases List.mem_cons.mp hline with rfl | hline
      · exact hlistening
      · exact List.mem_singleton.mp hline ▸ hloaded

theorem isConnectedLine_connectedLine : isConnectedLine connectedLine = true := by decide

theorem isConnectedLine_shutdownLine : isConnectedLine shutdownLine = true := by decide

/-! ## What is promised -/

/-- The registry with which a session of a configuration begins. -/
def Config.registry (config : Config) : Registry :=
  .new config.workDir config.timeouts.readMillis

/-- The number of connections that a client makes if it is started over the given files. -/
def Config.contacts (config : Config) (files : FileSystem) : Nat :=
  if config.publicKeyFile?.any files.exists? then 1 else 2

theorem Config.exists_contacts (config : Config) (files : FileSystem) :
    ∃ n, config.contacts files = n + 1 := by
  rw [contacts]
  split
  · exact ⟨0, rfl⟩
  · exact ⟨1, rfl⟩

/-- Whether a command line carries a request to exit. -/
def CommandLine.asksExit (line : CommandLine) : Bool :=
  flagValue? "-C" line.args = some Opcode.exit.token

/-- The credential that a command line carries. -/
def CommandLine.credential (line : CommandLine) : Credential :=
  ⟨(flagValue? "-u" line.args).getD "", (flagValue? "-w" line.args).getD ""⟩

/-- The bytes that a receipt holds. -/
def Receipt.content (receipt : Receipt) : Bytes :=
  receipt.arrived.flatMap fun
    | .bytes chunk => chunk
    | .failure => []

/-- What came without a failure came in pieces. -/
theorem Receipt.exists_chunks {receipt : Receipt} (h : .failure ∉ receipt.arrived) :
    ∃ chunks : List Bytes, receipt.arrived = chunks.map .bytes ∧
      receipt.content = chunks.flatten := by
  obtain ⟨arrived, closed⟩ := receipt
  induction arrived with
  | nil => exact ⟨[], rfl, rfl⟩
  | cons arrival rest ih =>
      obtain ⟨chunks, hrest, hcontent⟩ := ih fun hmem => h (List.mem_cons_of_mem _ hmem)
      cases arrival with
      | bytes chunk =>
          exact ⟨chunk :: chunks, congrArg (_ :: ·) hrest, congrArg (chunk ++ ·) hcontent⟩
      | failure => exact absurd List.mem_cons_self h

/-- Whether a process was seen to end. -/
def Awaited.isEnd : Awaited → Bool
  | .ended _ => true
  | .failed _ | .late => false

theorem Awaited.isEnd_iff {result : Awaited} :
    result.isEnd = true ↔ ∃ status, result = .ended status := by
  cases result with
  | ended status => exact ⟨fun _ => ⟨status, rfl⟩, fun _ => rfl⟩
  | failed | late => exact ⟨nofun, nofun⟩

/-- What is known of the server from a record: what it is doing once it was started, and how much of its
    output was handed over. -/
structure Scene where
  serving : Option Serving
  sent : Bytes
deriving DecidableEq, Repr

/-- Before anything was done. -/
def Scene.empty : Scene := ⟨none, []⟩

/-- A server that was asked to end, by somebody whom it knew. -/
def Scene.ended (scene : Scene) : Bool := scene.serving.any (·.ended)

/-- What is promised of the server of a configuration and its clients: how the server begins, and whose
    request ends it. -/
structure Promise (σ : Type) where
  config : Config
  banner : Banner
  /-- Whether the server knows a credential, on a machine as it is. -/
  knows : σ → Credential → Bool

namespace Promise

variable {σ : Type} (promise : Promise σ)

/-- Everything that the server prints, as bytes. -/
def printed (now : Serving) : Bytes := wire (now.printed promise.config promise.banner)

theorem printed_connected {now : Serving} (hup : now.ended = false) (n : Nat) (ended : Bool) :
    promise.printed ⟨now.process, now.connections + (n + 1), ended⟩ =
      promise.printed now ++ wire (connectedLine :: (handshakes n ++ lastLines ended)) := by
  rw [printed, Serving.printed_connected hup, LineReader.wire_append]
  rfl

variable [Machine σ]

/-- The server once a client was started over the machine as it was before. The client makes its
    connections, and the last of them ends the server if it carries a request to exit from somebody whom
    the server knows. -/
def visited (now : Serving) (before : σ) (line : CommandLine) : Serving where
  process := now.process
  connections := now.connections + promise.config.contacts (Machine.files before)
  ended := now.ended || (line.asksExit && promise.knows before line.credential)

/-- The scene after one more deed. The server is the first one that is started. -/
def next (scene : Scene) : Deed σ → Scene
  | .start before line (.ok process) =>
    match line.role, scene.serving with
    | .server, none => ⟨some ⟨process, 0, false⟩, []⟩
    | .client, some now => ⟨some (promise.visited now before line), scene.sent⟩
    | .server, some _ | .client, none => scene
  | .receive process receipt =>
    if scene.serving.any (·.process = process) then ⟨scene.serving, scene.sent ++ receipt.content⟩
    else scene
  | .start _ _ (.error _) | .await _ _ | .kill _ => scene

/-- What is handed over of the server's output continues what was handed over before. It holds the end of
    a line unless nothing more is to come, and its end is only reached when the server has ended. -/
def Delivers (now : Serving) (sent : Bytes) (receipt : Receipt) : Prop :=
  .failure ∉ receipt.arrived ∧ sent ++ receipt.content <+: promise.printed now ∧
  (10 ∈ receipt.content ∨ sent ++ receipt.content = promise.printed now) ∧
  (receipt.closed = true → now.ended = true ∧ sent ++ receipt.content = promise.printed now)

/-- Whether a deed is as promised. A client is not mistaken for the server, the server's output is
    delivered in time, and a server that was asked to end does so in time. -/
def Fits (scene : Scene) : Deed σ → Prop
  | .start _ line (.ok process) =>
    line.role = .client → ∀ now ∈ scene.serving, process ≠ now.process
  | .receive process receipt =>
    ∀ now ∈ scene.serving, process = now.process → promise.Delivers now scene.sent receipt
  | .await process result =>
    ∀ now ∈ scene.serving, process = now.process → now.ended = true → result.isEnd = true
  | .start _ _ (.error _) | .kill _ => True

instance (now : Serving) (sent : Bytes) (receipt : Receipt) :
    Decidable (promise.Delivers now sent receipt) :=
  inferInstanceAs (Decidable (_ ∧ _))

instance (scene : Scene) (deed : Deed σ) : Decidable (promise.Fits scene deed) :=
  match deed with
  | .start _ line (.ok process) => inferInstanceAs
      (Decidable (line.role = .client → ∀ now ∈ scene.serving, process ≠ now.process))
  | .receive process receipt => inferInstanceAs (Decidable
      (∀ now ∈ scene.serving, process = now.process → promise.Delivers now scene.sent receipt))
  | .await process result => inferInstanceAs (Decidable
      (∀ now ∈ scene.serving, process = now.process → now.ended = true → result.isEnd = true))
  | .start _ _ (.error _) => instDecidableTrue
  | .kill _ => instDecidableTrue

/-- From a scene on, every deed is as promised in the scene to which it comes. -/
def KeptFrom (scene : Scene) : List (Deed σ) → Prop
  | [] => True
  | deed :: rest => promise.Fits scene deed ∧ KeptFrom (promise.next scene deed) rest

/-- **The promise is kept on a record**, from before anything was done. -/
structure Kept (record : List (Deed σ)) : Prop where
  fromStart : promise.KeptFrom .empty record

/-- The scene to which a record comes. -/
def scene (record : List (Deed σ)) : Scene := record.foldl promise.next .empty

instance decidableKeptFrom (scene : Scene) :
    (record : List (Deed σ)) → Decidable (promise.KeptFrom scene record)
  | [] => instDecidableTrue
  | deed :: rest =>
    have := decidableKeptFrom (promise.next scene deed) rest
    inferInstanceAs (Decidable (_ ∧ _))

instance (record : List (Deed σ)) : Decidable (promise.Kept record) :=
  have := promise.decidableKeptFrom .empty record
  decidable_of_iff (promise.KeptFrom .empty record) ⟨Kept.mk, Kept.fromStart⟩

variable {promise}

theorem scene_concat (record : List (Deed σ)) (deed : Deed σ) :
    promise.scene (record ++ [deed]) = promise.next (promise.scene record) deed :=
  List.foldl_append

theorem keptFrom_concat {scene : Scene} {record : List (Deed σ)} {deed : Deed σ} :
    promise.KeptFrom scene (record ++ [deed]) ↔
      promise.KeptFrom scene record ∧ promise.Fits (record.foldl promise.next scene) deed := by
  induction record generalizing scene with
  | nil => exact and_comm
  | cons first rest ih => exact (and_congr_right fun _ => ih).trans and_assoc.symm

theorem kept_concat {record : List (Deed σ)} {deed : Deed σ} :
    promise.Kept (record ++ [deed]) ↔
      promise.Kept record ∧ promise.Fits (promise.scene record) deed := by
  refine ⟨fun h => ?_, fun ⟨h, hfits⟩ => ⟨keptFrom_concat.mpr ⟨h.fromStart, hfits⟩⟩⟩
  obtain ⟨hrecord, hfits⟩ := keptFrom_concat.mp h.fromStart
  exact ⟨⟨hrecord⟩, hfits⟩

/-- Once the server was asked to end, nothing that is done takes that back. -/
theorem ended_next {scene : Scene} (h : scene.ended = true) (deed : Deed σ) :
    (promise.next scene deed).ended = true := by
  obtain ⟨_ | now, sent⟩ := scene
  · exact nomatch h
  · have hnow : now.ended = true := h
    cases deed with
    | start before line result =>
        cases result with
        | error e => exact h
        | ok process =>
            rw [next]
            cases line.role with
            | server => exact h
            | client =>
                show (now.ended || _) = true
                rw [hnow, Bool.true_or]
    | receive process receipt =>
        rw [next]
        split <;> exact h
    | await | kill => exact h

theorem up_of_concat (promise : Promise σ) {record : List (Deed σ)} {deed : Deed σ}
    (h : (promise.scene (record ++ [deed])).ended = false) : (promise.scene record).ended = false := by
  rw [scene_concat] at h
  exact Bool.eq_false_iff.mpr fun hended => nomatch (ended_next hended deed).symm.trans h

end Promise

/-! ## A machine on which the promise is kept -/

/-- A machine with the scene beside it. -/
structure Rehearsal {σ : Type} [Machine σ] (promise : Promise σ) where
  machine : σ
  scene : Scene

namespace Rehearsal

variable {σ α : Type} [Machine σ] {promise : Promise σ} (rehearsal : Rehearsal promise)

/-- Give an answer if it is as promised, and another one else. -/
def settle (deed : α → Deed σ) (answer other : α) (machine : σ) : α × Rehearsal promise :=
  let answer := if promise.Fits rehearsal.scene (deed answer) then answer else other
  (answer, ⟨machine, promise.next rehearsal.scene (deed answer)⟩)

/-- What is left of the server's output, all at once. -/
def remainder : Receipt :=
  match rehearsal.scene.serving with
  | none => ⟨[], true⟩
  | some now => ⟨[.bytes ((promise.printed now).drop rehearsal.scene.sent.length)], now.ended⟩

instance : Machine (Rehearsal promise) where
  files rehearsal := Machine.files rehearsal.machine
  withFiles rehearsal files :=
    { rehearsal with machine := Machine.withFiles rehearsal.machine files }
  start rehearsal directory line :=
    let (result, machine) := Machine.start rehearsal.machine directory line
    rehearsal.settle (.start rehearsal.machine line) result (.error .denied) machine
  receive rehearsal process millis :=
    let (receipt, machine) := Machine.receive rehearsal.machine process millis
    rehearsal.settle (.receive process) receipt rehearsal.remainder machine
  await rehearsal process millis :=
    let (result, machine) := Machine.await rehearsal.machine process millis
    rehearsal.settle (.await process) result (.ended (.exited 0)) machine
  kill rehearsal process := { rehearsal with machine := Machine.kill rehearsal.machine process }

variable {rehearsal}

/-- An answer that is as promised is given. -/
theorem settle_of_fits {deed : α → Deed σ} {answer : α}
    (h : promise.Fits rehearsal.scene (deed answer)) (other : α) (machine : σ) :
    rehearsal.settle deed answer other machine =
      (answer, ⟨machine, promise.next rehearsal.scene (deed answer)⟩) := by
  rw [settle, if_pos h]

/-- **Every answer is as promised**, if the other one is, and it is what comes to the scene. -/
theorem fits_of_settle (deed : α → Deed σ) {answer other given : α} {machine : σ}
    {rehearsal' : Rehearsal promise} (h : promise.Fits rehearsal.scene (deed other))
    (hsettle : rehearsal.settle deed answer other machine = (given, rehearsal')) :
    promise.Fits rehearsal.scene (deed given) ∧
      rehearsal'.scene = promise.next rehearsal.scene (deed given) := by
  obtain ⟨rfl, rfl⟩ := Prod.mk.inj hsettle
  refine ⟨?_, rfl⟩
  split
  · assumption
  · exact h

end Rehearsal

/-- **A rehearsal is the machine itself for as long as the promise is kept there.** -/
def Promise.rehearsed {σ : Type} [Machine σ] (promise : Promise σ) :
    Imitation (Recorded σ) (Rehearsal promise) where
  Good recorded := promise.Kept recorded.record
  image recorded := ⟨recorded.machine, promise.scene recorded.record⟩
  files _ := rfl
  withFiles h := ⟨h, rfl⟩
  start h := by
    obtain ⟨hkept, hfits⟩ := kept_concat.mp h
    refine ⟨hkept, (Rehearsal.settle_of_fits hfits _ _).trans ?_⟩
    rw [← scene_concat]
    rfl
  receive h := by
    obtain ⟨hkept, hfits⟩ := kept_concat.mp h
    refine ⟨hkept, (Rehearsal.settle_of_fits hfits _ _).trans ?_⟩
    rw [← scene_concat]
    rfl
  await h := by
    obtain ⟨hkept, hfits⟩ := kept_concat.mp h
    refine ⟨hkept, (Rehearsal.settle_of_fits hfits _ _).trans ?_⟩
    rw [← scene_concat]
    rfl
  kill {recorded process} h := by
    refine ⟨(kept_concat.mp h).1, ?_⟩
    show (⟨_, promise.scene recorded.record⟩ : Rehearsal promise) =
      ⟨_, promise.scene (recorded.record ++ [.kill process])⟩
    rw [scene_concat]
    rfl

/-- The machine itself, as long as the server was not asked to end. -/
def Promise.unended {σ : Type} [Machine σ] (promise : Promise σ) : Imitation (Recorded σ) σ :=
  Recorded.unrecordedWhile (P := fun record => (promise.scene record).ended = false)
    promise.up_of_concat

/-! ## What a session finds there -/

theorem ClientSpec.asksExit_commandLine (spec : ClientSpec) (request : Request) :
    (spec.commandLine request).asksExit = decide (request.opcode = .exit) := by
  have htoken : flagValue? "-C" (spec.commandLine request).args = some request.opcode.token := by
    rw [commandLine, Request.paramArgs]
    cases request.param1 <;> cases request.param2 <;> rfl
  rw [CommandLine.asksExit, htoken]
  refine decide_eq_decide.mpr ⟨fun h => ?_, fun h => congrArg (some ·.token) h⟩
  exact Opcode.token_injective (Option.some.inj h)

theorem ClientSpec.credential_commandLine (spec : ClientSpec) (request : Request) :
    (spec.commandLine request).credential = request.credential := by
  rw [CommandLine.credential, commandLine, Request.paramArgs]
  cases request.param1 <;> cases request.param2 <;> rfl

namespace Rehearsal

variable {σ : Type} [Machine σ] {promise : Promise σ} {rehearsal rehearsal' : Rehearsal promise}
  {now : Serving} {registry : Registry} {process millis : Nat}

/-- The server is started as it is started on the machine. -/
theorem launch_server (hidle : rehearsal.scene.serving = none)
    (hstart : (registry.launch promise.config.server.commandLine rehearsal.machine).1 =
      .ok process) :
    ∃ rehearsal' : Rehearsal promise,
      registry.launch promise.config.server.commandLine rehearsal = (.ok process, rehearsal') ∧
        rehearsal'.scene = ⟨some ⟨process, 0, false⟩, []⟩ := by
  let deed : Except OsError Nat → Deed σ := .start rehearsal.machine
    { promise.config.server.commandLine with
      program := registry.programPath promise.config.server.commandLine.program }
  have hfits : promise.Fits rehearsal.scene (deed (.ok process)) := fun hclient =>
    nomatch (ServerSpec.role_commandLine promise.config.server).symm.trans hclient
  have hlaunch : registry.launch promise.config.server.commandLine rehearsal =
      rehearsal.settle deed
        (registry.launch promise.config.server.commandLine rehearsal.machine).1 (.error .denied)
        (registry.launch promise.config.server.commandLine rehearsal.machine).2 := rfl
  rw [hstart, settle_of_fits hfits] at hlaunch
  refine ⟨_, hlaunch, ?_⟩
  obtain ⟨machine, serving, sent⟩ := rehearsal
  obtain rfl : serving = none := hidle
  rfl

/-- The start of a program, as it comes to the scene. -/
theorem launch_fits {line : CommandLine} {result : Except OsError Nat}
    (hlaunch : registry.launch line rehearsal = (result, rehearsal')) :
    promise.Fits rehearsal.scene (.start rehearsal.machine
      { line with program := registry.programPath line.program } result) ∧
    rehearsal'.scene = promise.next rehearsal.scene (.start rehearsal.machine
      { line with program := registry.programPath line.program } result) := by
  have hrefusal : promise.Fits rehearsal.scene (.start rehearsal.machine
      { line with program := registry.programPath line.program } (.error .denied)) := trivial
  exact fits_of_settle (.start rehearsal.machine _) hrefusal hlaunch

/-- A client that cannot be started does not matter to the server. -/
theorem launch_refused {line : CommandLine} {e : OsError}
    (hlaunch : registry.launch line rehearsal = (.error e, rehearsal')) :
    rehearsal'.scene = rehearsal.scene :=
  (launch_fits hlaunch).2

/-- A client that is started makes its connections. -/
theorem launch_client {request : Request} (hserving : rehearsal.scene.serving = some now)
    (hlaunch : registry.launch (promise.config.client.commandLine request) rehearsal =
      (.ok process, rehearsal')) :
    process ≠ now.process ∧
    rehearsal'.scene = ⟨some ⟨now.process,
      now.connections + promise.config.contacts (Machine.files rehearsal),
      now.ended || (decide (request.opcode = .exit) &&
        promise.knows rehearsal.machine request.credential)⟩, rehearsal.scene.sent⟩ := by
  obtain ⟨hfits, hnext⟩ := launch_fits hlaunch
  refine ⟨hfits (ClientSpec.role_commandLine promise.config.client request) now hserving,
    hnext.trans ?_⟩
  rw [← ClientSpec.asksExit_commandLine promise.config.client,
    ← ClientSpec.credential_commandLine promise.config.client]
  obtain ⟨machine, serving, sent⟩ := rehearsal
  obtain rfl : serving = some now := hserving
  rfl

/-- **What is received of the server comes as promised.** -/
theorem receive_server (hserving : rehearsal.scene.serving = some now)
    (hsent : rehearsal.scene.sent <+: promise.printed now) {receipt : Receipt}
    (hreceive : Machine.receive rehearsal now.process millis = (receipt, rehearsal')) :
    promise.Delivers now rehearsal.scene.sent receipt ∧
      rehearsal'.scene = ⟨some now, rehearsal.scene.sent ++ receipt.content⟩ := by
  obtain ⟨machine, serving, sent⟩ := rehearsal
  obtain rfl : serving = some now := hserving
  let left : Receipt := ⟨[.bytes ((promise.printed now).drop sent.length)], now.ended⟩
  have hall : sent ++ left.content = promise.printed now := by
    show sent ++ ((promise.printed now).drop sent.length ++ []) = _
    rw [List.append_nil]
    exact (List.prefix_iff_eq_append.mp hsent)
  have hleft : promise.Fits ⟨some now, sent⟩ (.receive now.process left) := by
    intro other hother _
    obtain rfl : now = other := Option.some.inj hother
    refine ⟨fun hfailure => ?_, ?_, Or.inr hall, fun hended => ⟨hended, hall⟩⟩
    · exact nomatch List.mem_singleton.mp hfailure
    · exact hall ▸ List.prefix_refl _
  obtain ⟨hfits, hnext⟩ := fits_of_settle (.receive now.process) hleft hreceive
  refine ⟨hfits now rfl rfl, hnext.trans ?_⟩
  exact if_pos (decide_eq_true rfl)

/-- Output of other processes does not matter to the server. -/
theorem receive_other (hserving : rehearsal.scene.serving = some now)
    (hother : process ≠ now.process) (millis : Nat) :
    (Machine.receive rehearsal process millis).2.scene = rehearsal.scene := by
  obtain ⟨machine, serving, sent⟩ := rehearsal
  obtain rfl : serving = some now := hserving
  exact if_neg fun h => hother (of_decide_eq_true h).symm

/-- A server that was asked to end does so in time. -/
theorem await_server (hserving : rehearsal.scene.serving = some now) (hended : now.ended = true)
    (millis : Nat) :
    ∃ status, (Machine.await rehearsal now.process millis).1 = .ended status := by
  obtain ⟨hfits, -⟩ := fits_of_settle (.await now.process) (fun _ _ _ _ => rfl)
    (show Machine.await rehearsal now.process millis = (_, _) from rfl)
  exact Awaited.isEnd_iff.mp (hfits now hserving rfl hended)

end Rehearsal

end Conformance
