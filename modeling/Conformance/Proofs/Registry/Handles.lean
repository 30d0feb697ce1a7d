import Conformance.Proofs.Registry
import Mathlib.Data.List.Induction
import Mathlib.Data.List.Nodup
import Mathlib.Data.List.Perm.Basic

/-!
# Handles and what they stand for

A process is tracked from the call that starts it to the first call that waits for it, kills it or
kills everything, whatever the machine makes of these calls. The list of tracked processes is no good
witness of that: what is taken out of it is replaced by its last element, so its order changes with
every call. The route:

* `swapRemove_perm` — taking a process out leaves the others, in whatever order;
* `serve_cases` — what one call can do: track one process under the next handle, or keep those that it
  does not give up;
* `accounts_after` — by induction on the calls, what is tracked is what the calls and their answers say;
* `handles_accounted` — all of it, for every sequence of calls.

Between two calls anything may happen on the machine, so every call brings the machine that it meets.
-/

namespace Conformance

/-! ## Removal that reorders -/

/-- **Removal keeps the others**: only their order changes. -/
theorem swapRemove_perm {α : Type} {xs : List α} {position : Nat} (h : position < xs.length) :
    (swapRemove xs position).Perm (xs.eraseIdx position) := by
  obtain ⟨others, last, rfl⟩ :=
    (List.eq_nil_or_concat' xs).resolve_left (List.ne_nil_of_length_pos (by omega))
  have hperm := List.set_perm_cons_eraseIdx h last
  rw [set_concat] at hperm
  rw [swapRemove_concat]
  exact ((List.perm_append_singleton last _).symm.trans hperm).cons_inv

example : swapRemove [1, 2, 3, 4] 1 = [1, 4, 3] := by decide

namespace Registry

/-! ## Giving a handle up -/

variable {registry rest : Registry} {id : ProcessId} {found : Tracked}

/-- **A process that is taken was tracked under its handle**, and the others are tracked on. -/
theorem of_take (h : registry.take id = some (found, rest)) :
    found.id = id ∧ (found :: rest.tracked).Perm registry.tracked ∧
      rest = { registry with tracked := rest.tracked } := by
  rw [take] at h
  split at h
  · cases h
  · next position hposition =>
    obtain ⟨hlt, hid, -⟩ := List.findIdx?_eq_some_iff_getElem.mp hposition
    rw [List.getElem?_eq_getElem hlt] at h
    obtain ⟨rfl, rfl⟩ := Prod.mk.inj (Option.some.inj h)
    refine ⟨of_decide_eq_true hid, ?_, rfl⟩
    exact ((swapRemove_perm hlt).cons _).trans (List.getElem_cons_eraseIdx_perm hlt)

theorem take_eq_none_iff : registry.take id = none ↔ id ∉ registry.ids := by
  constructor
  · intro htake hid
    obtain ⟨found, hfound, hfoundId⟩ := List.mem_map.mp hid
    rw [take] at htake
    split at htake
    · next hnone =>
      exact of_decide_eq_false (List.findIdx?_eq_none_iff.mp hnone found hfound) hfoundId
    · next position hposition =>
      obtain ⟨hlt, -⟩ := List.findIdx?_eq_some_iff_getElem.mp hposition
      rw [List.getElem?_eq_getElem hlt] at htake
      cases htake
  · intro hid
    cases htake : registry.take id with
    | none => rfl
    | some taken =>
        obtain ⟨hfoundId, hperm, -⟩ := of_take htake
        exact absurd (List.mem_map.mpr ⟨_, hperm.subset List.mem_cons_self, hfoundId⟩) hid

theorem nextId_forget (registry : Registry) (id : ProcessId) :
    (registry.forget id).nextId = registry.nextId := by
  rw [forget]
  cases htake : registry.take id with
  | none => rfl
  | some taken =>
      obtain ⟨-, -, hrest⟩ := of_take htake
      show taken.2.nextId = registry.nextId
      rw [hrest]

/-- **A handle that is given up is the only one that is**, whatever becomes of the order. -/
theorem tracked_forget (hdistinct : registry.ids.Nodup) (id : ProcessId) :
    (registry.forget id).tracked.Perm (registry.tracked.filter (·.id ≠ id)) := by
  rw [forget]
  cases htake : registry.take id with
  | none =>
      have hothers : ∀ found ∈ registry.tracked, decide (found.id ≠ id) = true :=
        fun found hfound => decide_eq_true fun hid =>
          take_eq_none_iff.mp htake (List.mem_map.mpr ⟨found, hfound, hid⟩)
      rw [List.filter_eq_self.mpr hothers]
  | some taken =>
      obtain ⟨found, rest⟩ := taken
      obtain ⟨hid, hperm, -⟩ := of_take htake
      have hids : (found.id :: rest.ids).Nodup := (hperm.map Tracked.id).nodup_iff.mpr hdistinct
      have hothers : ∀ other ∈ rest.tracked, decide (other.id ≠ id) = true :=
        fun other hother => decide_eq_true fun hotherId =>
          (List.nodup_cons.mp hids).1 (List.mem_map.mpr ⟨other, hother, hotherId.trans hid.symm⟩)
      have hfilter := hperm.filter (·.id ≠ id)
      rw [List.filter_cons_of_neg (by simpa using hid), List.filter_eq_self.mpr hothers] at hfilter
      exact hfilter

/-! ## Calls -/

/-- A call of the registry. -/
inductive Call where
  | spawn (role : Role) (line : CommandLine)
  | wait (id : ProcessId) (millis : Nat)
  | kill (id : ProcessId)
  | terminateAll

/-- What a call is answered. -/
inductive Answer where
  | spawned (result : Except Fault Spawned)
  | waited (result : Except Fault ExitStatus)
  | killed
  | terminated (count : Nat)

/-- A call that was made, with its answer. -/
structure Event where
  call : Call
  answer : Answer

/-- Whether a call is to start a process. -/
def Call.isSpawn : Call → Bool
  | .spawn .. => true
  | .wait .. | .kill _ | .terminateAll => false

/-- Whether a call gives a handle up. -/
def Call.GivesUp (id : ProcessId) : Call → Prop
  | .spawn .. => False
  | .wait other _ | .kill other => id = other
  | .terminateAll => True

instance (id : ProcessId) : (call : Call) → Decidable (call.GivesUp id)
  | .spawn .. => inferInstanceAs (Decidable False)
  | .wait other _ | .kill other => inferInstanceAs (Decidable (id = other))
  | .terminateAll => inferInstanceAs (Decidable True)

/-- The process that was started, under the handle that was given out for it. -/
def Event.started? : Event → Option Tracked
  | ⟨.spawn role _, .spawned (.ok spawned)⟩ => some ⟨spawned.id, role, spawned.process⟩
  | _ => none

/-- Whether a process was started and its handle was not given up since. -/
def Outstanding (history : List Event) (found : Tracked) : Prop :=
  ∃ before event after, history = before ++ event :: after ∧ event.started? = some found ∧
    ∀ later ∈ after, ¬ later.call.GivesUp found.id

/-- The handles that were given out, in order. -/
def issued (history : List Event) : List ProcessId :=
  (history.filterMap Event.started?).map Tracked.id

variable {σ : Type} [Machine σ]

/-- Make a call on a machine. -/
def serve (registry : Registry) (machine : σ) : Call → Answer × Registry
  | .spawn role line =>
    let (result, registry, _) := registry.spawn role line machine
    (.spawned result, registry)
  | .wait id millis =>
    let (result, registry, _) := registry.wait id millis machine
    (.waited result, registry)
  | .kill id =>
    let (registry, _) := registry.kill id machine
    (.killed, registry)
  | .terminateAll =>
    let (count, registry, _) := registry.terminateAll machine
    (.terminated count, registry)

/-- The registry that calls leave, each made on the machine as it is by then. -/
def after (registry : Registry) (calls : List (Call × σ)) : Registry :=
  calls.foldl (fun registry made => (registry.serve made.2 made.1).2) registry

/-- What happens when calls are made one after the other. -/
def history (registry : Registry) : List (Call × σ) → List Event
  | [] => []
  | (call, machine) :: rest =>
    ⟨call, (registry.serve machine call).1⟩ :: (registry.serve machine call).2.history rest

/-- **WHAT ONE CALL CAN DO**: track one process under the next handle, or stop tracking those that it gives
    up. -/
theorem serve_cases (hdistinct : registry.ids.Nodup) (call : Call) (machine : σ) :
    (∃ role line process, call = .spawn role line ∧
      (registry.serve machine call).2 = registry.track role process ∧
      Event.started? ⟨call, (registry.serve machine call).1⟩ =
        some ⟨⟨registry.nextId⟩, role, process⟩) ∨
    ((registry.serve machine call).2.tracked.Perm
        (registry.tracked.filter (¬ call.GivesUp ·.id)) ∧
      (registry.serve machine call).2.nextId = registry.nextId ∧
      Event.started? ⟨call, (registry.serve machine call).1⟩ = none) := by
  cases call with
  | spawn role line =>
      cases hlaunch : registry.launch line machine with
      | mk result machine' =>
          cases result with
          | error e =>
              rw [serve, spawn_of_refused role hlaunch]
              refine Or.inr ⟨?_, rfl, rfl⟩
              have hall : (registry.tracked.filter fun _ => true) = registry.tracked :=
                List.filter_eq_self.mpr fun _ _ => rfl
              exact .of_eq hall.symm
          | ok process =>
              rw [serve, spawn_of_started role hlaunch]
              exact Or.inl ⟨role, line, process, rfl, rfl, rfl⟩
  | wait id millis =>
      have hserve : (registry.serve machine (.wait id millis)).2 = registry.forget id :=
        wait_registry registry id millis machine
      rw [hserve]
      exact Or.inr ⟨tracked_forget hdistinct id, nextId_forget registry id, rfl⟩
  | kill id =>
      have hserve : (registry.serve machine (.kill id)).2 = registry.forget id :=
        kill_registry registry id machine
      rw [hserve]
      exact Or.inr ⟨tracked_forget hdistinct id, nextId_forget registry id, rfl⟩
  | terminateAll =>
      refine Or.inr ⟨?_, rfl, rfl⟩
      have hnone : (registry.tracked.filter fun _ => false) = [] :=
        List.filter_eq_nil_iff.mpr fun _ _ => Bool.false_ne_true
      exact .of_eq hnone.symm

/-! ## Calls one after the other -/

theorem after_concat (registry : Registry) (calls : List (Call × σ)) (call : Call) (machine : σ) :
    registry.after (calls ++ [(call, machine)]) =
      ((registry.after calls).serve machine call).2 := by
  rw [after, List.foldl_concat]
  rfl

theorem history_concat (registry : Registry) (calls : List (Call × σ)) (call : Call) (machine : σ) :
    registry.history (calls ++ [(call, machine)]) =
      registry.history calls ++ [⟨call, ((registry.after calls).serve machine call).1⟩] := by
  induction calls generalizing registry with
  | nil => rfl
  | cons made rest ih => exact congrArg (_ :: ·) (ih _)

theorem issued_concat (history : List Event) (event : Event) :
    issued (history ++ [event]) = issued history ++ event.started?.toList.map Tracked.id := by
  rw [issued, List.filterMap_append, List.map_append]
  congr 2

/-- One more event ends what it gives up, and begins what it starts. -/
theorem outstanding_concat_iff (history : List Event) (event : Event) (found : Tracked) :
    Outstanding (history ++ [event]) found ↔
      (Outstanding history found ∧ ¬ event.call.GivesUp found.id) ∨
        event.started? = some found := by
  constructor
  · rintro ⟨before, started, after, hsplit, hstarted, hafter⟩
    rcases List.eq_nil_or_concat' after with rfl | ⟨earlier, last, rfl⟩
    · obtain ⟨-, hlast⟩ := List.append_inj' hsplit rfl
      exact Or.inr ((List.cons.inj hlast).1 ▸ hstarted)
    · rw [← List.cons_append, ← List.append_assoc] at hsplit
      obtain ⟨rfl, hlast⟩ := List.append_inj' hsplit rfl
      obtain rfl := (List.cons.inj hlast).1
      obtain ⟨hearlier, hevent⟩ := List.forall_mem_append.mp hafter
      exact Or.inl ⟨⟨before, started, earlier, rfl, hstarted, hearlier⟩,
        hevent event List.mem_cons_self⟩
  · rintro (⟨⟨before, started, after, rfl, hstarted, hafter⟩, hevent⟩ | hstarted)
    · refine ⟨before, started, after ++ [event], by rw [List.append_assoc]; rfl, hstarted, ?_⟩
      exact List.forall_mem_append.mpr ⟨hafter, List.forall_mem_singleton.mpr hevent⟩
    · exact ⟨history, event, [], rfl, hstarted, nofun⟩

/-- What a registry tracks is what its history says. -/
structure Accounts (history : List Event) (registry : Registry) : Prop where
  distinct : registry.ids.Nodup
  numbered : registry.Numbered
  /-- Handles are given out in the order of their numbers. -/
  issued : issued history = (List.range registry.nextId).map ProcessId.mk
  outstanding : ∀ found, found ∈ registry.tracked ↔ Outstanding history found

theorem accounts_new (workDir : Path) (readMillis : Nat) : Accounts [] (new workDir readMillis) where
  distinct := List.nodup_nil
  numbered := nofun
  issued := rfl
  outstanding found := iff_of_false nofun fun ⟨before, _, _, hsplit, _⟩ => by
    cases before <;> exact nomatch hsplit

theorem Accounts.track {history : List Event} (h : Accounts history registry) {role : Role}
    {process : Nat} {event : Event} (hcall : ∀ id, ¬ event.call.GivesUp id)
    (hstarted : event.started? = some ⟨⟨registry.nextId⟩, role, process⟩) :
    Accounts (history ++ [event]) (registry.track role process) where
  distinct := by
    show ((registry.tracked ++ [_]).map Tracked.id).Nodup
    rw [List.map_append]
    refine List.nodup_append.mpr ⟨h.distinct, List.pairwise_singleton _ _, ?_⟩
    rintro id hid _ hnext rfl
    -- what is tracked has a number below the one that is given out
    obtain ⟨found, hfound, rfl⟩ := List.mem_map.mp hid
    exact Nat.ne_of_lt (h.numbered found hfound)
      (congrArg ProcessId.number (List.mem_singleton.mp hnext))
  numbered := numbered_track h.numbered role process
  issued := by
    show Registry.issued _ = (List.range (registry.nextId + 1)).map ProcessId.mk
    rw [issued_concat, h.issued, hstarted, List.range_succ, List.map_append]
    rfl
  outstanding found := by
    rw [outstanding_concat_iff, ← h.outstanding, and_iff_left (hcall found.id), hstarted,
      Option.some_inj, eq_comm (b := found)]
    exact List.mem_append.trans (or_congr_right List.mem_singleton)

theorem Accounts.keep {history : List Event} {next : Registry} (h : Accounts history registry)
    {event : Event}
    (htracked : next.tracked.Perm (registry.tracked.filter (¬ event.call.GivesUp ·.id)))
    (hnextId : next.nextId = registry.nextId) (hstarted : event.started? = none) :
    Accounts (history ++ [event]) next where
  distinct := by
    have hids := htracked.map Tracked.id
    exact hids.nodup_iff.mpr (h.distinct.sublist (List.filter_sublist.map Tracked.id))
  numbered found hfound := by
    rw [hnextId]
    exact h.numbered found (List.mem_of_mem_filter (htracked.subset hfound))
  issued := by
    rw [issued_concat, h.issued, hstarted, hnextId]
    exact List.append_nil _
  outstanding found := by
    rw [outstanding_concat_iff, ← h.outstanding, hstarted, htracked.mem_iff, List.mem_filter,
      decide_eq_true_iff]
    exact (or_iff_left nofun).symm

theorem Accounts.serve {history : List Event} (h : Accounts history registry) (call : Call)
    (machine : σ) :
    Accounts (history ++ [⟨call, (registry.serve machine call).1⟩])
      (registry.serve machine call).2 := by
  rcases serve_cases h.distinct call machine with
    ⟨role, line, process, rfl, hnext, hstarted⟩ | ⟨htracked, hnextId, hstarted⟩
  · rw [hnext]
    exact h.track (fun _ => id) hstarted
  · exact h.keep htracked hnextId hstarted

theorem accounts_after (workDir : Path) (readMillis : Nat) (calls : List (Call × σ)) :
    Accounts ((new workDir readMillis).history calls) ((new workDir readMillis).after calls) := by
  induction calls using List.reverseRecOn with
  | nil => exact accounts_new workDir readMillis
  | append_singleton calls made ih =>
      rw [history_concat, after_concat]
      exact ih.serve made.1 made.2

theorem nodup_issued {history : List Event} (h : Accounts history registry) :
    (issued history).Nodup := by
  rw [h.issued]
  exact List.Nodup.map (fun _ _ heq => congrArg ProcessId.number heq) List.nodup_range

/-! ## How many handles there are -/

theorem map_call_history (registry : Registry) (calls : List (Call × σ)) :
    (registry.history calls).map Event.call = calls.map Prod.fst := by
  induction calls generalizing registry with
  | nil => rfl
  | cons made rest ih => exact congrArg (made.1 :: ·) (ih _)

theorem isSpawn_of_started {event : Event} (h : event.started?.isSome = true) :
    event.call.isSpawn = true := by
  obtain ⟨call, answer⟩ := event
  cases call with
  | spawn role line => rfl
  | wait id millis => exact nomatch h
  | kill id => exact nomatch h
  | terminateAll => exact nomatch h

theorem length_issued_le (registry : Registry) (calls : List (Call × σ)) :
    (issued (registry.history calls)).length ≤ calls.countP (·.1.isSpawn) := by
  calc (issued (registry.history calls)).length
      = (registry.history calls).countP (·.started?.isSome) := by
        rw [issued, List.length_map, List.length_filterMap_eq_countP]
    _ ≤ (registry.history calls).countP (·.call.isSpawn) :=
        List.countP_mono_left fun _ _ => isSpawn_of_started
    _ = calls.countP (·.1.isSpawn) := by
        show List.countP (Call.isSpawn ∘ Event.call) _ = List.countP (Call.isSpawn ∘ Prod.fst) _
        rw [← List.countP_map, map_call_history, List.countP_map]

theorem nextId_eq {history : List Event} (h : Accounts history registry) :
    registry.nextId = (issued history).length := by
  rw [h.issued, List.length_map, List.length_range]

/-- **WHAT IS TRACKED, AND UNDER WHICH HANDLE**, for every sequence of calls. Tracked handles are distinct
    and below the next one, and none was given out twice; there are no more of them than starts, so with
    fewer than `2 ^ 64` starts each is a 64-bit word. Tracked is what was started and neither waited for
    nor killed since. To wait for a handle or to kill it leaves every other process tracked, and does
    nothing if it is not tracked; to terminate everything leaves nothing, and tells how much there
    was. -/
theorem handles_accounted (workDir : Path) (readMillis : Nat) (calls : List (Call × σ)) :
    let start := new workDir readMillis
    let registry := start.after calls
    let history := start.history calls
    registry.ids.Nodup ∧
    (∀ id ∈ registry.ids, id.number < registry.nextId) ∧
    (issued history).Nodup ∧
    registry.nextId ≤ calls.countP (·.1.isSpawn) ∧
    (∀ found, found ∈ registry.tracked ↔
      ∃ before event after, history = before ++ event :: after ∧ event.started? = some found ∧
        ∀ later ∈ after, ¬ later.call.GivesUp found.id) ∧
    (∀ id millis (machine : σ),
      (registry.wait id millis machine).2.1.tracked.Perm (registry.tracked.filter (·.id ≠ id)) ∧
      (registry.kill id machine).1.tracked.Perm (registry.tracked.filter (·.id ≠ id)) ∧
      (id ∉ registry.ids →
        registry.wait id millis machine = (.error (.io .untracked), registry, machine) ∧
        registry.kill id machine = (registry, machine))) ∧
    ∀ machine : σ, (registry.terminateAll machine).1 = registry.tracked.length ∧
      (registry.terminateAll machine).2.1.tracked = [] := by
  intro start registry history
  have h : Accounts history registry := accounts_after workDir readMillis calls
  refine ⟨h.distinct, ?_, nodup_issued h, ?_, h.outstanding, fun id millis machine => ⟨?_, ?_, ?_⟩,
    fun machine => ⟨rfl, rfl⟩⟩
  · intro id hid
    obtain ⟨found, hfound, rfl⟩ := List.mem_map.mp hid
    exact h.numbered found hfound
  · rw [nextId_eq h]
    exact length_issued_le start calls
  · rw [wait_registry]
    exact tracked_forget h.distinct id
  · rw [kill_registry]
    exact tracked_forget h.distinct id
  · intro hid
    have hnone := take_eq_none_iff.mpr hid
    exact ⟨by rw [wait, hnone], by rw [kill, hnone]⟩

/-- A machine that starts everything, on which nothing ends until it is killed. -/
structure Sleepers where
  started : Nat

instance : Machine Sleepers where
  files _ := ⟨[], []⟩
  withFiles machine _ := machine
  start machine _ _ := (.ok machine.started, ⟨machine.started + 1⟩)
  receive machine _ _ := (⟨[], false⟩, machine)
  await machine _ _ := (.late, machine)
  kill machine _ := machine

/-- A server and two clients, and a wait for the server that comes to nothing. -/
def Sleepers.calls : List (Call × Sleepers) :=
  [(.spawn .server ⟨"server", []⟩, ⟨0⟩), (.spawn .client ⟨"client", []⟩, ⟨1⟩),
    (.spawn .client ⟨"client", []⟩, ⟨2⟩), (.wait ⟨0⟩ 5, ⟨3⟩)]

/-- The clients are tracked on, in another order, and the server is not known any more. -/
theorem handles_accounted_sleepers :
    let registry := (new "." 5000).after Sleepers.calls
    registry.ids = [⟨2⟩, ⟨1⟩] ∧ registry.nextId = 3 ∧
    (⟨2⟩ : ProcessId).number < registry.nextId ∧
    (∃ before event after, (new "." 5000).history Sleepers.calls = before ++ event :: after ∧
      event.started? = some ⟨⟨1⟩, .client, 1⟩ ∧ ∀ later ∈ after, ¬ later.call.GivesUp ⟨1⟩) ∧
    (registry.kill ⟨2⟩ (⟨3⟩ : Sleepers)).1.tracked.Perm [⟨⟨1⟩, .client, 1⟩] ∧
    registry.wait ⟨0⟩ 5 (⟨3⟩ : Sleepers) = (.error (.io .untracked), registry, ⟨3⟩) := by
  intro registry
  obtain ⟨-, hbelow, -, -, houtstanding, hgivenUp, -⟩ := handles_accounted "." 5000 Sleepers.calls
  refine ⟨by decide, by decide, hbelow ⟨2⟩ (by decide), (houtstanding _).mp (by decide),
    (hgivenUp ⟨2⟩ 5 ⟨3⟩).2.1, ?_⟩
  exact ((hgivenUp ⟨0⟩ 5 ⟨3⟩).2.2 (by decide)).1

end Registry

end Conformance
