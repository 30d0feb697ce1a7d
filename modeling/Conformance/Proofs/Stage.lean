import Conformance.Stage

/-!
# How a cast grows

Users join a stage one after the other, and not every call lets one join. A call looks at the cast twice,
at the aliases and then at the credential, before it writes to it, and this order is all that keeps a
refused call from leaving something behind. So a call stands here as a change of the stage that may be
refused halfway (`enrol`), and only then as the function of the stage that it is (`run_enrol`). The
route:

* `answer_eq_ok_iff`, `answer_eq_error_iff` — which calls succeed, and why the others do not;
* `after_of_error` — a refused call leaves the stage as it was;
* `nodup_aliases_after`, `find?_after` — by induction on the calls, aliases stay distinct, and under each
  of them is what was admitted;
* `cast_of_enrolments` — all of it, for every sequence of calls.
-/

namespace Conformance

/-- A call for a user to join: an alias, and what is to become the credential. -/
structure Enrolment where
  key : String
  name : String
  password : String
deriving DecidableEq, Repr

/-! ## Credentials -/

namespace Credential

theorem new_eq_ok_iff {name password : String} {credential : Credential} :
    Credential.new name password = .ok credential ↔
      name ≠ "" ∧ password ≠ "" ∧ credential = ⟨name, password⟩ := by
  rw [Credential.new]
  by_cases hname : name = ""
  · rw [if_pos hname]
    exact iff_of_false nofun fun h => h.1 hname
  by_cases hpassword : password = ""
  · rw [if_neg hname, if_pos hpassword]
    exact iff_of_false nofun fun h => h.2.1 hpassword
  · rw [if_neg hname, if_neg hpassword, Except.ok.injEq, eq_comm, and_iff_right hname,
      and_iff_right hpassword]

theorem new_eq_error_iff {name password : String} {e : ProtocolError} :
    Credential.new name password = .error e ↔
      (name = "" ∧ e = .emptyCredential .name) ∨
      (name ≠ "" ∧ password = "" ∧ e = .emptyCredential .password) := by
  rw [Credential.new]
  by_cases hname : name = ""
  · rw [if_pos hname, Except.error.injEq, eq_comm]
    exact ⟨fun h => Or.inl ⟨hname, h⟩, fun h => h.elim And.right fun h => absurd hname h.1⟩
  by_cases hpassword : password = ""
  · rw [if_neg hname, if_pos hpassword, Except.error.injEq, eq_comm]
    exact ⟨fun h => Or.inr ⟨hname, hpassword, h⟩,
      fun h => h.elim (fun h => absurd h.1 hname) fun h => h.2.2⟩
  · rw [if_neg hname, if_neg hpassword]
    exact iff_of_false nofun fun h => h.elim (fun h => hname h.1) fun h => hpassword h.2.1

end Credential

/-! ## The cast -/

namespace Cast

variable {cast cast' : Cast} {key name password : String} {credential : Credential} {fault : Fault}

theorem add_eq_ok_iff :
    cast.add key name password = .ok (credential, cast') ↔
      key ∉ cast.aliases ∧ Credential.new name password = .ok credential ∧
        cast' = ⟨cast.members ++ [(key, credential)]⟩ := by
  rw [add]
  by_cases hkey : key ∈ cast.aliases
  · rw [if_pos hkey]
    exact iff_of_false nofun fun h => h.1 hkey
  rw [if_neg hkey, and_iff_right hkey]
  cases Credential.new name password with
  | error e => exact iff_of_false nofun fun h => nomatch h.1
  | ok admitted =>
      rw [Except.ok.injEq, Except.ok.injEq, Prod.mk.injEq]
      constructor
      · rintro ⟨rfl, rfl⟩
        exact ⟨rfl, rfl⟩
      · rintro ⟨rfl, rfl⟩
        exact ⟨rfl, rfl⟩

/-- That the alias is taken is reported before what is wrong with the credential. -/
theorem add_eq_error_iff :
    cast.add key name password = .error fault ↔
      (key ∈ cast.aliases ∧ fault = .config (.duplicateAlias key)) ∨
      (key ∉ cast.aliases ∧ ∃ e, Credential.new name password = .error e ∧ fault = .protocol e) := by
  rw [add]
  by_cases hkey : key ∈ cast.aliases
  · rw [if_pos hkey, Except.error.injEq, eq_comm]
    exact ⟨fun h => Or.inl ⟨hkey, h⟩, fun h => h.elim And.right fun h => absurd hkey h.1⟩
  rw [if_neg hkey, or_iff_right fun h => hkey h.1, and_iff_right hkey]
  cases Credential.new name password with
  | ok admitted => exact iff_of_false nofun fun ⟨_, h, _⟩ => nomatch h
  | error e =>
      rw [Except.error.injEq]
      exact ⟨fun h => ⟨e, rfl, h.symm⟩, fun ⟨_, he, h⟩ => Except.error.inj he ▸ h.symm⟩

theorem find?_eq_none_iff : cast.find? key = none ↔ key ∉ cast.aliases := by
  rw [find?, List.lookup_eq_none_iff, aliases, List.mem_map]
  constructor
  · rintro h ⟨member, hmember, rfl⟩
    exact bne_iff_ne.mp (h member hmember) rfl
  · exact fun h member hmember => bne_iff_ne.mpr fun heq => h ⟨member, hmember, heq.symm⟩

/-- Who joins last is found only where nobody else is. -/
theorem find?_concat (members : List (String × Credential)) (name : String) :
    find? ⟨members ++ [(key, credential)]⟩ name =
      (find? ⟨members⟩ name).or (if key = name then some credential else none) := by
  rw [find?, List.lookup_append, find?]
  congr 1
  by_cases h : key = name
  · rw [if_pos h, h, List.lookup_cons_self]
  · rw [if_neg h, List.lookup_cons, beq_false_of_ne (Ne.symm h)]
    rfl

theorem user_eq_ok_iff : cast.user name = .ok credential ↔ cast.find? name = some credential := by
  rw [user]
  cases cast.find? name with
  | none => exact iff_of_false nofun nofun
  | some found => rw [Except.ok.injEq, Option.some_inj]

theorem user_eq_error_iff :
    cast.user name = .error fault ↔
      cast.find? name = none ∧ fault = .config (.unknownAlias name) := by
  rw [user]
  cases cast.find? name with
  | none => rw [Except.error.injEq, eq_comm, and_iff_right rfl]
  | some found => exact iff_of_false nofun fun h => nomatch h.1

end Cast

namespace Stage

/-! ## One call -/

/-- A change of the stage that may be refused. What was changed until then stays changed. -/
abbrev Change := ExceptT Fault (StateM Stage)

/-- Let a user join. -/
def enrol (call : Enrolment) : Change Credential := do
  let stage ← get
  if call.key ∈ stage.cast.aliases then
    throw (.config (.duplicateAlias call.key))
  else
    match Credential.new call.name call.password with
    | .error e => throw (.protocol e)
    | .ok credential =>
      set { stage with cast := ⟨stage.cast.members ++ [(call.key, credential)]⟩ }
      return credential

/-- What a call is answered. -/
def answer (stage : Stage) (call : Enrolment) : Except Fault Credential :=
  ((enrol call).run.run stage).1

/-- The stage that a call leaves. -/
def next (stage : Stage) (call : Enrolment) : Stage := ((enrol call).run.run stage).2

/-- The stage that calls leave, made one after the other. -/
def after (stage : Stage) (calls : List Enrolment) : Stage := calls.foldl next stage

/-- Calls with their answers, made one after the other. -/
def record : Stage → List Enrolment → List (Enrolment × Except Fault Credential)
  | _, [] => []
  | stage, call :: rest => (call, stage.answer call) :: record (stage.next call) rest

/-- The credentials that were admitted under an alias. -/
def admitted (key : String) (record : List (Enrolment × Except Fault Credential)) :
    List Credential :=
  record.filterMap fun entry => if entry.1.key = key then entry.2.toOption else none

theorem admitted_cons (key : String) (entry : Enrolment × Except Fault Credential)
    (record : List (Enrolment × Except Fault Credential)) :
    admitted key (entry :: record) = admitted key [entry] ++ admitted key record :=
  List.filterMap_append (l := [entry])

@[simp] theorem admitted_error (key : String) (call : Enrolment) (fault : Fault) :
    admitted key [(call, .error fault)] = [] :=
  List.filterMap_cons_none (by dsimp only; split <;> rfl)

@[simp] theorem admitted_ok (key : String) (call : Enrolment) (credential : Credential) :
    admitted key [(call, .ok credential)] = if call.key = key then [credential] else [] := by
  split
  · next h => exact List.filterMap_cons_some (if_pos h)
  · next h => exact List.filterMap_cons_none (if_neg h)

variable {stage : Stage} {call : Enrolment}

/-- A call is what adds a user, with the stage as it was if there is nothing to add. -/
theorem run_enrol (stage : Stage) (call : Enrolment) :
    (enrol call).run.run stage =
      match stage.addUser call.key call.name call.password with
      | .error e => (.error e, stage)
      | .ok (credential, next) => (.ok credential, next) := by
  rw [addUser, Cast.add]
  by_cases hkey : call.key ∈ stage.cast.aliases
  · rw [if_pos hkey]
    show ((if call.key ∈ stage.cast.aliases then _ else _ : Change Credential).run.run stage) = _
    rw [if_pos hkey]
    rfl
  · rw [if_neg hkey]
    show ((if call.key ∈ stage.cast.aliases then _ else _ : Change Credential).run.run stage) = _
    rw [if_neg hkey]
    cases Credential.new call.name call.password <;> rfl

theorem answer_eq (stage : Stage) (call : Enrolment) :
    stage.answer call =
      match stage.cast.add call.key call.name call.password with
      | .error fault => .error fault
      | .ok (credential, _) => .ok credential := by
  rw [answer, run_enrol, addUser]
  cases stage.cast.add call.key call.name call.password <;> rfl

theorem next_eq (stage : Stage) (call : Enrolment) :
    stage.next call =
      match stage.cast.add call.key call.name call.password with
      | .error _ => stage
      | .ok (_, cast) => { stage with cast := cast } := by
  rw [next, run_enrol, addUser]
  cases stage.cast.add call.key call.name call.password <;> rfl

theorem answer_eq_ok_iff {credential : Credential} :
    stage.answer call = .ok credential ↔
      call.key ∉ stage.cast.aliases ∧ call.name ≠ "" ∧ call.password ≠ "" ∧
        credential = ⟨call.name, call.password⟩ := by
  rw [← Credential.new_eq_ok_iff, answer_eq]
  cases hadd : stage.cast.add call.key call.name call.password with
  | error fault =>
      refine iff_of_false nofun fun h => ?_
      exact nomatch hadd.symm.trans (Cast.add_eq_ok_iff.mpr ⟨h.1, h.2, rfl⟩)
  | ok added =>
      obtain ⟨admitted, cast⟩ := added
      obtain ⟨hkey, hnew, -⟩ := Cast.add_eq_ok_iff.mp hadd
      rw [and_iff_right hkey, hnew, Except.ok.injEq, Except.ok.injEq]

/-- The alias is looked at first, then the name, then the password. -/
theorem answer_eq_error_iff {fault : Fault} :
    stage.answer call = .error fault ↔
      (call.key ∈ stage.cast.aliases ∧ fault = .config (.duplicateAlias call.key)) ∨
      (call.key ∉ stage.cast.aliases ∧ call.name = "" ∧
        fault = .protocol (.emptyCredential .name)) ∨
      (call.key ∉ stage.cast.aliases ∧ call.name ≠ "" ∧ call.password = "" ∧
        fault = .protocol (.emptyCredential .password)) := by
  have hanswer : stage.answer call = .error fault ↔
      stage.cast.add call.key call.name call.password = .error fault := by
    rw [answer_eq]
    cases stage.cast.add call.key call.name call.password with
    | error e => rw [Except.error.injEq, Except.error.injEq]
    | ok added => exact iff_of_false nofun nofun
  rw [hanswer, Cast.add_eq_error_iff, ← and_or_left]
  refine or_congr_right (and_congr_right fun _ => ⟨?_, ?_⟩)
  · rintro ⟨e, he, rfl⟩
    rcases Credential.new_eq_error_iff.mp he with ⟨hname, rfl⟩ | ⟨hname, hpassword, rfl⟩
    · exact Or.inl ⟨hname, rfl⟩
    · exact Or.inr ⟨hname, hpassword, rfl⟩
  · rintro (⟨hname, rfl⟩ | ⟨hname, hpassword, rfl⟩)
    · exact ⟨_, Credential.new_eq_error_iff.mpr (Or.inl ⟨hname, rfl⟩), rfl⟩
    · exact ⟨_, Credential.new_eq_error_iff.mpr (Or.inr ⟨hname, hpassword, rfl⟩), rfl⟩

/-- **A refused call leaves nothing behind.** -/
theorem next_of_error {fault : Fault} (h : stage.answer call = .error fault) :
    stage.next call = stage := by
  rw [answer_eq] at h
  rw [next_eq]
  cases hadd : stage.cast.add call.key call.name call.password with
  | error e => rfl
  | ok added =>
      rw [hadd] at h
      exact nomatch h

/-- A call that succeeds writes one line behind the others. -/
theorem next_of_ok {credential : Credential} (h : stage.answer call = .ok credential) :
    stage.next call =
      { stage with cast := ⟨stage.cast.members ++ [(call.key, credential)]⟩ } := by
  obtain ⟨hkey, hnew⟩ := answer_eq_ok_iff.mp h
  rw [next_eq, Cast.add_eq_ok_iff.mpr ⟨hkey, Credential.new_eq_ok_iff.mpr hnew, rfl⟩]

/-! ## Calls one after the other -/

theorem after_append (stage : Stage) (before rest : List Enrolment) :
    stage.after (before ++ rest) = (stage.after before).after rest :=
  List.foldl_append

/-- Whatever comes later, a refused call could as well not have been made. -/
theorem after_cons_of_error {fault : Fault} (h : stage.answer call = .error fault)
    (later : List Enrolment) : stage.after (call :: later) = stage.after later :=
  congrArg (fun start => after start later) (next_of_error h)

theorem nodup_aliases_next (h : stage.cast.aliases.Nodup) (call : Enrolment) :
    (stage.next call).cast.aliases.Nodup := by
  cases hanswer : stage.answer call with
  | error fault => rwa [next_of_error hanswer]
  | ok credential =>
      obtain ⟨hkey, -⟩ := answer_eq_ok_iff.mp hanswer
      rw [next_of_ok hanswer]
      show ((stage.cast.members ++ [(call.key, credential)]).map (·.1)).Nodup
      rw [List.map_append]
      refine List.nodup_append.mpr ⟨h, List.pairwise_singleton _ _, fun key hmem other hother => ?_⟩
      obtain rfl := List.mem_singleton.mp hother
      rintro rfl
      exact hkey hmem

theorem nodup_aliases_after (h : stage.cast.aliases.Nodup) (calls : List Enrolment) :
    (stage.after calls).cast.aliases.Nodup := by
  induction calls generalizing stage with
  | nil => exact h
  | cons call rest ih => exact ih (nodup_aliases_next h call)

/-- What a call adds to what is found under an alias is what it admits under it. -/
theorem find?_next (stage : Stage) (call : Enrolment) (key : String) :
    ((stage.next call).cast.find? key).toList =
      (stage.cast.find? key).toList ++ admitted key [(call, stage.answer call)] := by
  cases hanswer : stage.answer call with
  | error fault =>
      rw [next_of_error hanswer, admitted_error, List.append_nil]
  | ok credential =>
      obtain ⟨hkey, -⟩ := answer_eq_ok_iff.mp hanswer
      rw [next_of_ok hanswer, admitted_ok]
      show (Cast.find? ⟨stage.cast.members ++ [(call.key, credential)]⟩ key).toList = _
      rw [Cast.find?_concat]
      by_cases h : call.key = key
      · rw [if_pos h, if_pos h, Cast.find?_eq_none_iff.mpr (h ▸ hkey)]
        rfl
      · rw [if_neg h, if_neg h, Option.or_none, List.append_nil]

/-- Under an alias is found what was admitted under it. -/
theorem find?_after (stage : Stage) (calls : List Enrolment) (key : String) :
    ((stage.after calls).cast.find? key).toList =
      (stage.cast.find? key).toList ++ admitted key (stage.record calls) := by
  induction calls generalizing stage with
  | nil => exact (List.append_nil _).symm
  | cons call rest ih =>
      show (((stage.next call).after rest).cast.find? key).toList = _
      rw [ih, find?_next, List.append_assoc, ← admitted_cons]
      rfl

/-- The calls that make the standard cast. -/
def standardCalls : List Enrolment :=
  [⟨"alice", "alice", "alice_is_awesome"⟩, ⟨"fakealice", "alice", "not_alice_password"⟩,
    ⟨"bob", "bob", "bob_is_the_best"⟩, ⟨"chris", "chris", "i_heart_cats"⟩,
    ⟨"diana", "diana", "p@S$$$$sw0rd"⟩]

/-- Nobody of the standard cast is refused. -/
theorem after_standardCalls (config : Config) :
    (⟨config, Cast.empty⟩ : Stage).after standardCalls = ⟨config, Cast.standard⟩ := by
  rfl

/-- **HOW A CAST GROWS**, for every sequence of calls. Aliases stay distinct. A call succeeds just if its
    alias is new and neither half of its credential is empty; that the alias is taken is complained about
    first. A refused call could as well not have been made, whatever comes after it. Under an alias is
    found the credential of the only call that succeeded under it, and nothing if there was none. The
    standard cast has grown in this way too. -/
theorem cast_of_enrolments (config : Config) (calls : List Enrolment) :
    let start : Stage := ⟨config, Cast.empty⟩
    let stage := start.after calls
    stage.cast.aliases.Nodup ∧
    (∀ call credential, stage.answer call = .ok credential ↔
      call.key ∉ stage.cast.aliases ∧ call.name ≠ "" ∧ call.password ≠ "" ∧
        credential = ⟨call.name, call.password⟩) ∧
    (∀ call fault, stage.answer call = .error fault ↔
      (call.key ∈ stage.cast.aliases ∧ fault = .config (.duplicateAlias call.key)) ∨
      (call.key ∉ stage.cast.aliases ∧ call.name = "" ∧
        fault = .protocol (.emptyCredential .name)) ∨
      (call.key ∉ stage.cast.aliases ∧ call.name ≠ "" ∧ call.password = "" ∧
        fault = .protocol (.emptyCredential .password))) ∧
    (∀ call fault, stage.answer call = .error fault → ∀ later key,
      (start.after (calls ++ call :: later)).cast.user key =
        (start.after (calls ++ later)).cast.user key) ∧
    (∀ key credential, stage.cast.user key = .ok credential ↔
      admitted key (start.record calls) = [credential]) ∧
    (∀ key fault, stage.cast.user key = .error fault ↔
      admitted key (start.record calls) = [] ∧ fault = .config (.unknownAlias key)) ∧
    ∀ more, (⟨config, Cast.standard⟩ : Stage).after more = start.after (standardCalls ++ more) := by
  intro start stage
  have hfound (key : String) :
      (stage.cast.find? key).toList = admitted key (start.record calls) :=
    find?_after start calls key
  have hstart : start.cast.aliases.Nodup := List.nodup_nil
  refine ⟨nodup_aliases_after hstart calls, fun _ _ => answer_eq_ok_iff,
    fun _ _ => answer_eq_error_iff, fun call fault hfault later key => ?_,
    fun key credential => ?_, fun key fault => ?_, fun more => ?_⟩
  · rw [after_append, after_append, after_cons_of_error hfault]
  · rw [Cast.user_eq_ok_iff, ← hfound]
    cases stage.cast.find? key with
    | none => exact iff_of_false nofun nofun
    | some found => rw [Option.some_inj, Option.toList_some, List.singleton_inj]
  · rw [Cast.user_eq_error_iff, ← hfound, Option.toList_eq_nil_iff]
  · rw [after_append, after_standardCalls]

/-- Calls of which one comes too late for its alias and lacks a name too, and one lacks a password. -/
def rehearsal : List Enrolment :=
  [⟨"a", "alice", "secret"⟩, ⟨"a", "", ""⟩, ⟨"b", "bob", ""⟩, ⟨"b", "bob", "hidden"⟩]

/-- The late call is told about its alias, and the user that lacked a password joins later. -/
theorem cast_of_enrolments_rehearsal :
    let start : Stage := ⟨{}, Cast.empty⟩
    let late : Enrolment := ⟨"a", "", ""⟩
    let later : List Enrolment := [⟨"b", "bob", ""⟩, ⟨"b", "bob", "hidden"⟩]
    rehearsal = [⟨"a", "alice", "secret"⟩] ++ late :: later ∧
    (start.after [⟨"a", "alice", "secret"⟩]).answer late =
      .error (.config (.duplicateAlias "a")) ∧
    (start.after rehearsal).cast.user "b" =
      (start.after ([⟨"a", "alice", "secret"⟩] ++ later)).cast.user "b" ∧
    (start.after rehearsal).cast.user "a" = .ok ⟨"alice", "secret"⟩ ∧
    (start.after rehearsal).cast.user "b" = .ok ⟨"bob", "hidden"⟩ ∧
    (start.after rehearsal).cast.user "c" = .error (.config (.unknownAlias "c")) := by
  intro start late later
  obtain ⟨-, -, hrefused, hignored, -⟩ :=
    cast_of_enrolments start.config [⟨"a", "alice", "secret"⟩]
  obtain ⟨-, -, -, -, hfound, hunknown, -⟩ := cast_of_enrolments start.config rehearsal
  have hlate := (hrefused late _).mpr (Or.inl ⟨by decide, rfl⟩)
  exact ⟨rfl, hlate, hignored late _ hlate later "b", (hfound _ _).mpr (by decide),
    (hfound _ _).mpr (by decide), (hunknown _ _).mpr ⟨by decide, rfl⟩⟩

end Stage

end Conformance
