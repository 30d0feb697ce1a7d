import Conformance.Registry

/-!
# What the registry tracks

The registry has two pieces of state that move: the tracked processes and the number of the next
handle. A start that succeeds adds one process under a handle that was never used (`track`); waiting
for a process and killing it both end with its handle given up (`forget`), whatever the machine did
meanwhile. The process tracked last is the one that is usually given up first, and then the list is
what it was before the start.
-/

namespace Conformance

theorem set_concat {α : Type} (others : List α) (last : α) (position : Nat) :
    (others ++ [last]).set position last = others.set position last ++ [last] := by
  rw [List.set_append]
  split
  · rfl
  · next hbehind =>
    rw [List.set_eq_of_length_le (Nat.le_of_not_lt hbehind)]
    cases position - others.length <;> rfl

/-- **The last element takes the place of the one that is removed**, unless it is the one itself. -/
theorem swapRemove_concat {α : Type} (others : List α) (last : α) (position : Nat) :
    swapRemove (others ++ [last]) position = others.set position last := by
  rw [swapRemove, List.getLast?_concat]
  show ((others ++ [last]).set position last).dropLast = others.set position last
  rw [set_concat, List.dropLast_concat]

theorem swapRemove_length {α : Type} (others : List α) (last : α) :
    swapRemove (others ++ [last]) others.length = others := by
  rw [swapRemove_concat, List.set_eq_of_length_le (Nat.le_refl _)]

namespace Registry

variable (registry : Registry)

/-- The registry once a process has been started under a role. -/
def track (role : Role) (process : Nat) : Registry :=
  { registry with
    nextId := registry.nextId + 1
    tracked := registry.tracked ++ [⟨⟨registry.nextId⟩, role, process⟩] }

/-- The registry once a handle has been given up, tracked or not. -/
def forget (id : ProcessId) : Registry :=
  match registry.take id with
  | none => registry
  | some (_, rest) => rest

/-- Every tracked handle was given out before the next one. -/
def Numbered : Prop := ∀ found ∈ registry.tracked, found.id.number < registry.nextId

/-! ## Giving a handle up -/

variable {registry}

/-- The process tracked last is found under its handle, and the others stay as they were. -/
theorem take_last {others : List Tracked} {last : Tracked}
    (htracked : registry.tracked = others ++ [last])
    (hothers : ∀ found ∈ others, found.id ≠ last.id) :
    registry.take last.id = some (last, { registry with tracked := others }) := by
  -- the search passes over the others and stops at the last place
  have hnone : others.findIdx? (fun found => found.id = last.id) = none :=
    List.findIdx?_eq_none_iff.mpr fun found hfound => decide_eq_false (hothers found hfound)
  have hposition : registry.tracked.findIdx? (fun found => found.id = last.id) =
      some others.length := by
    rw [htracked, List.findIdx?_append, hnone, List.findIdx?_cons, if_pos (decide_eq_true rfl)]
    show some (0 + others.length) = some others.length
    rw [Nat.zero_add]
  have hlast : registry.tracked[others.length]? = some last := by
    rw [htracked, List.getElem?_concat_length]
  rw [take, hposition]
  simp only [hlast]
  rw [htracked, swapRemove_length]

theorem forget_of_take {id : ProcessId} {found : Tracked} {rest : Registry}
    (htake : registry.take id = some (found, rest)) : registry.forget id = rest := by
  rw [forget, htake]

/-! ## The operations on a machine -/

variable (registry) {σ : Type} [Machine σ]

/-- What the machine answers when a program is started for the registry. -/
def launch (line : CommandLine) (machine : σ) : Except OsError Nat × σ :=
  Machine.start machine registry.workDir { line with program := registry.programPath line.program }

/-- A start depends on where the registry is, not on what it tracks. -/
theorem launch_congr {registry registry' : Registry} (h : registry.workDir = registry'.workDir)
    (line : CommandLine) (machine : σ) :
    registry.launch line machine = registry'.launch line machine := by
  rw [launch, launch, programPath, programPath, h]

variable {registry} {line : CommandLine} {machine machine' : σ}

/-- A start that the machine refuses leaves the registry as it is. -/
theorem spawn_of_refused (role : Role) {e : OsError}
    (hlaunch : registry.launch line machine = (.error e, machine')) :
    registry.spawn role line machine =
      (.error (.spawn (registry.programPath line.program) e), registry, machine') := by
  rw [launch] at hlaunch
  rw [spawn]
  dsimp only
  rw [hlaunch]

/-- A start that succeeds gives the next handle out, and its process is tracked under it. -/
theorem spawn_of_started (role : Role) {process : Nat}
    (hlaunch : registry.launch line machine = (.ok process, machine')) :
    registry.spawn role line machine =
      (.ok ⟨⟨registry.nextId⟩, process, .fresh⟩, registry.track role process, machine') := by
  rw [launch] at hlaunch
  rw [spawn]
  dsimp only
  rw [hlaunch]
  rfl

/-- Waiting for a process ends with its handle given up. -/
theorem wait_registry (registry : Registry) (id : ProcessId) (millis : Nat) (machine : σ) :
    (registry.wait id millis machine).2.1 = registry.forget id := by
  rw [wait, forget]
  cases registry.take id with
  | none => rfl
  | some taken =>
      dsimp only
      split <;> rfl

/-- While it is waited for, a process is let run to its end, and killed unless it comes to it. -/
theorem wait_machine {registry rest : Registry} {id : ProcessId} {found : Tracked}
    (htake : registry.take id = some (found, rest)) (millis : Nat) (machine : σ) :
    ((∃ status, (Machine.await machine found.process millis).1 = .ended status) ∧
      (registry.wait id millis machine).2.2 = (Machine.await machine found.process millis).2) ∨
    ((∀ status, (Machine.await machine found.process millis).1 ≠ .ended status) ∧
      (registry.wait id millis machine).2.2 =
        Machine.kill (Machine.await machine found.process millis).2 found.process) := by
  rw [wait, htake]
  dsimp only
  rcases Machine.await machine found.process millis with ⟨status | e | _, machine'⟩
  · exact Or.inl ⟨⟨status, rfl⟩, rfl⟩
  · exact Or.inr ⟨nofun, rfl⟩
  · exact Or.inr ⟨nofun, rfl⟩

/-- A tracked process that ends in time is waited for with success. -/
theorem wait_value {registry rest : Registry} {id : ProcessId} {found : Tracked}
    {status : ExitStatus} {millis : Nat} {machine : σ}
    (htake : registry.take id = some (found, rest))
    (hended : (Machine.await machine found.process millis).1 = .ended status) :
    (registry.wait id millis machine).1 = .ok status := by
  rw [wait, htake]
  dsimp only
  rcases hawait : Machine.await machine found.process millis with ⟨awaited, machine'⟩
  obtain rfl : awaited = .ended status := by rw [← hended, hawait]
  rfl

/-- **To wait with success is to wait for a tracked process that ends in time.** -/
theorem exists_wait_eq_ok_iff {registry : Registry} {id : ProcessId} {millis : Nat} {machine : σ} :
    (∃ status, (registry.wait id millis machine).1 = .ok status) ↔
      ∃ found rest status, registry.take id = some (found, rest) ∧
        (Machine.await machine found.process millis).1 = .ended status := by
  refine ⟨fun ⟨status, hwait⟩ => ?_, fun ⟨_, _, status, htake, hended⟩ =>
    ⟨status, wait_value htake hended⟩⟩
  rw [wait] at hwait
  rcases htake : registry.take id with _ | ⟨found, rest⟩
  · rw [htake] at hwait
    exact nomatch hwait
  · rw [htake] at hwait
    dsimp only at hwait
    refine ⟨found, rest, status, rfl, ?_⟩
    rcases hawait : Machine.await machine found.process millis with ⟨awaited, after⟩
    rw [hawait] at hwait
    cases awaited with
    | ended status' => exact congrArg Awaited.ended (Except.ok.inj hwait)
    | failed | late => exact nomatch hwait

/-- Killing a process ends with its handle given up. -/
theorem kill_registry (registry : Registry) (id : ProcessId) (machine : σ) :
    (registry.kill id machine).1 = registry.forget id := by
  rw [kill, forget]
  cases registry.take id <;> rfl

/-! ## Numbered handles -/

theorem numbered_track (hnumbered : registry.Numbered) (role : Role) (process : Nat) :
    (registry.track role process).Numbered := by
  intro found hfound
  rcases List.mem_append.mp hfound with hfound | hfound
  · exact Nat.lt_succ_of_lt (hnumbered found hfound)
  · rw [List.mem_singleton.mp hfound]
    exact Nat.lt_succ_self _

end Registry

end Conformance
