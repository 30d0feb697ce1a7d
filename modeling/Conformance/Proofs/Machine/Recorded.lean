import Conformance.Registry
import Mathlib.Data.List.Basic

/-!
# What is done to processes

A machine can be watched: `Recorded` does what the machine does and keeps the record of everything that
was done to a process, with the answers. What is said about a whole run is said of its record. `alive` is
what the record knows of the processes that were started and were neither seen to end nor killed, the
latest first. Looking at output and changing files has no influence on it (`Undisturbed`).
-/

namespace Conformance

/-! ## Machines that are left alone -/

/-- From one machine to another nothing was done to a process but receive its output. -/
inductive Machine.Undisturbed {σ : Type} [Machine σ] (machine : σ) : σ → Prop where
  | refl : Undisturbed machine machine
  | receive {machine' : σ} (h : Undisturbed machine machine') (process millis : Nat) :
      Undisturbed machine (Machine.receive machine' process millis).2
  | withFiles {machine' : σ} (h : Undisturbed machine machine') (files : FileSystem) :
      Undisturbed machine (Machine.withFiles machine' files)

namespace Machine.Undisturbed

variable {σ : Type} [Machine σ] {machine machine' machine'' : σ}

theorem trans (h : Undisturbed machine machine') (h' : Undisturbed machine' machine'') :
    Undisturbed machine machine'' := by
  induction h' with
  | refl => exact h
  | receive _ process millis ih => exact ih.receive process millis
  | withFiles _ files ih => exact ih.withFiles files

theorem fill (spawned : Spawned) (millis : Nat) (machine : σ) :
    Undisturbed machine (spawned.fill millis machine).2 := by
  rw [Spawned.fill]
  split
  · exact .refl
  · exact .receive .refl spawned.process millis

theorem readLines (count millis : Nat) (spawned : Spawned) (machine : σ) :
    Undisturbed machine (Spawned.readLines count millis spawned machine).2.2 := by
  induction count generalizing spawned machine with
  | zero => exact .refl
  | succ n ih => exact (fill spawned millis machine).trans (ih _ _)

end Machine.Undisturbed

/-! ## Records -/

/-- Something that was done to a process, and what came of it. A start is remembered with the machine as
    it was before. -/
inductive Deed (σ : Type) where
  | start (before : σ) (line : CommandLine) (result : Except OsError Nat)
  | receive (process : Nat) (receipt : Receipt)
  | await (process : Nat) (result : Awaited)
  | kill (process : Nat)

/-- A machine, and what was done to processes on it. -/
structure Recorded (σ : Type) where
  machine : σ
  record : List (Deed σ)

namespace Recorded

variable {σ : Type}

/-- A machine on which nothing was done yet. -/
def fresh (machine : σ) : Recorded σ := ⟨machine, []⟩

/-- The machine and the record after one more deed. -/
def add (recorded : Recorded σ) (deed : Deed σ) (machine : σ) : Recorded σ :=
  ⟨machine, recorded.record ++ [deed]⟩

variable [Machine σ]

instance : Machine (Recorded σ) where
  files recorded := Machine.files recorded.machine
  withFiles recorded files := { recorded with machine := Machine.withFiles recorded.machine files }
  start recorded directory line :=
    let (result, machine) := Machine.start recorded.machine directory line
    (result, recorded.add (.start recorded.machine line result) machine)
  receive recorded process millis :=
    let (receipt, machine) := Machine.receive recorded.machine process millis
    (receipt, recorded.add (.receive process receipt) machine)
  await recorded process millis :=
    let (result, machine) := Machine.await recorded.machine process millis
    (result, recorded.add (.await process result) machine)
  kill recorded process := recorded.add (.kill process) (Machine.kill recorded.machine process)

/-- Where processes were left alone, the record has grown by output only. -/
theorem record_of_undisturbed {recorded recorded' : Recorded σ}
    (h : Machine.Undisturbed recorded recorded') :
    ∃ deeds, recorded'.record = recorded.record ++ deeds ∧
      ∀ deed ∈ deeds, ∃ process receipt, deed = .receive process receipt := by
  induction h with
  | refl => exact ⟨[], (List.append_nil _).symm, nofun⟩
  | @receive between _ process millis ih =>
      obtain ⟨deeds, hrecord, hdeeds⟩ := ih
      refine ⟨deeds ++ [.receive process (Machine.receive between process millis).1], ?_, ?_⟩
      · show between.record ++ [_] = _
        rw [hrecord, List.append_assoc]
        rfl
      · intro deed hdeed
        rcases List.mem_append.mp hdeed with hdeed | hdeed
        · exact hdeeds deed hdeed
        · exact ⟨_, _, List.mem_singleton.mp hdeed⟩
  | withFiles _ files ih => exact ih

/-- What is killed one after the other is killed on record. -/
theorem record_kills (processes : List Nat) (recorded : Recorded σ) :
    (processes.foldl (fun machine process => Machine.kill machine process) recorded).record =
      recorded.record ++ processes.map .kill := by
  induction processes generalizing recorded with
  | nil => exact (List.append_nil _).symm
  | cons process rest ih =>
      refine (ih _).trans ?_
      show recorded.record ++ [.kill process] ++ _ = _
      rw [List.append_assoc]
      rfl

end Recorded

/-! ## Processes that are alive -/

/-- Whether a command line is that of a client: it is told by its first flag. -/
def CommandLine.role (line : CommandLine) : Role :=
  if line.args.head? = some "-k" then .client else .server

theorem ClientSpec.role_commandLine (spec : ClientSpec) (request : Request) :
    (spec.commandLine request).role = .client :=
  rfl

theorem ServerSpec.role_commandLine (spec : ServerSpec) : spec.commandLine.role = .server := by
  show (if some "-p" = some "-k" then _ else _) = _
  rw [if_neg (by decide)]

variable {σ : Type}

/-- The processes that are alive after a deed, with the roles of their command lines. Numbers may be given
    twice; then it is the latest process of that number that ends or is killed. -/
def Deed.update (alive : List (Role × Nat)) : Deed σ → List (Role × Nat)
  | .start _ line (.ok process) => (line.role, process) :: alive
  | .await process (.ended _) => alive.eraseP (·.2 = process)
  | .kill process => alive.eraseP (·.2 = process)
  | .start _ _ (.error _) | .receive _ _ | .await _ (.failed _) | .await _ .late => alive

/-- The processes that were started and were neither seen to end nor killed, the latest first. -/
def alive (record : List (Deed σ)) : List (Role × Nat) := record.foldl Deed.update []

/-- Whether a program was to be started. -/
def Deed.isStart : Deed σ → Bool
  | .start _ _ _ => true
  | .receive _ _ | .await _ _ | .kill _ => false

/-- At most one of the processes is a server. -/
def OneServer (processes : List (Role × Nat)) : Prop :=
  (processes.filter (·.1 = .server)).length ≤ 1

/-- At no time were two servers alive. -/
def NeverTwo (record : List (Deed σ)) : Prop :=
  ∀ before, before <+: record → OneServer (alive before)

theorem alive_append (record deeds : List (Deed σ)) :
    alive (record ++ deeds) = deeds.foldl Deed.update (alive record) :=
  List.foldl_append

theorem alive_concat (record : List (Deed σ)) (deed : Deed σ) :
    alive (record ++ [deed]) = deed.update (alive record) :=
  alive_append record [deed]

theorem OneServer.sublist {processes others : List (Role × Nat)} (h : OneServer others)
    (hsublist : processes.Sublist others) : OneServer processes :=
  Nat.le_trans (hsublist.filter _).length_le h

theorem neverTwo_nil : NeverTwo ([] : List (Deed σ)) := by
  intro before hbefore
  rw [List.prefix_nil.mp hbefore]
  exact Nat.zero_le 1

theorem NeverTwo.concat {record : List (Deed σ)} {deed : Deed σ} (h : NeverTwo record)
    (hnow : OneServer (alive (record ++ [deed]))) : NeverTwo (record ++ [deed]) := by
  intro before hbefore
  rcases List.prefix_concat_iff.mp hbefore with rfl | hbefore
  · exact hnow
  · exact h before hbefore

/-- Whatever is done to a process but start it makes no process live. -/
theorem Deed.update_sublist {deed : Deed σ} (h : deed.isStart = false)
    (processes : List (Role × Nat)) : (deed.update processes).Sublist processes := by
  cases deed with
  | start before line result => exact nomatch h
  | receive process receipt => exact List.Sublist.refl _
  | await process result =>
      cases result with
      | ended status => exact List.eraseP_sublist
      | failed | late => exact List.Sublist.refl _
  | kill process => exact List.eraseP_sublist

/-- **Only a start can make a second server live.** -/
theorem NeverTwo.append {record deeds : List (Deed σ)} (h : NeverTwo record)
    (hdeeds : ∀ deed ∈ deeds, deed.isStart = false) : NeverTwo (record ++ deeds) := by
  induction deeds generalizing record with
  | nil => exact (List.append_nil record).symm ▸ h
  | cons deed rest ih =>
      have hnow : OneServer (alive (record ++ [deed])) := by
        rw [alive_concat]
        exact (h record (List.prefix_refl _)).sublist
          (Deed.update_sublist (hdeeds deed List.mem_cons_self) _)
      have hrest := ih (h.concat hnow) fun other hother => hdeeds other (List.mem_cons_of_mem _ hother)
      rwa [List.append_assoc] at hrest

/-- Output makes no difference to who is alive. -/
theorem alive_append_received (record : List (Deed σ)) {deeds : List (Deed σ)}
    (h : ∀ deed ∈ deeds, ∃ process receipt, deed = .receive process receipt) :
    alive (record ++ deeds) = alive record := by
  induction deeds generalizing record with
  | nil => rw [List.append_nil]
  | cons deed rest ih =>
      obtain ⟨process, receipt, rfl⟩ := h deed List.mem_cons_self
      rw [← List.singleton_append, ← List.append_assoc,
        ih _ fun other hother => h other (List.mem_cons_of_mem _ hother), alive_concat]
      rfl

/-- **Nobody survives if everybody is killed**, in whatever order. -/
theorem alive_append_kills (record : List (Deed σ)) {processes : List Nat}
    (h : ((alive record).map Prod.snd).Perm processes) :
    alive (record ++ processes.map .kill) = [] := by
  induction processes generalizing record with
  | nil =>
      rw [List.map_nil, List.append_nil]
      exact List.map_eq_nil_iff.mp h.eq_nil
  | cons process rest ih =>
      rw [List.map_cons, ← List.singleton_append, ← List.append_assoc]
      refine ih (record ++ [.kill process]) ?_
      rw [alive_concat]
      show (((alive record).eraseP (·.2 = process)).map Prod.snd).Perm rest
      have herase : ((alive record).eraseP (·.2 = process)).map Prod.snd =
          ((alive record).map Prod.snd).erase process := by
        rw [List.erase_eq_eraseP, List.eraseP_map]
        refine congrArg (fun p => (List.eraseP p (alive record)).map Prod.snd) (funext fun entry => ?_)
        rw [Bool.eq_iff_iff, decide_eq_true_iff, Function.comp_apply, beq_iff_eq, eq_comm]
      rw [herase]
      exact (h.erase process).trans (by rw [List.erase_cons_head])

end Conformance
