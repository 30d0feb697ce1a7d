import Mathlib.Data.List.Basic
import Conformance.Data.Stored
import Conformance.Proofs.Text.Utf8
import Conformance.Standin.Client

/-!
# Requests on the command line

A request reaches the client as pairs of a flag and a value. What has to hold for nothing to get lost:

* `new_eq_typed?` — a list of parameters makes the request that the constructor of the opcode makes, or
  none, and then the constructor takes another number of them;
* `args_eq` — the arguments are the pairs one behind the other, so they are cut apart again without
  looking at the values (`pairs_flatten`), even at values that look like flags;
* `read_eq` — a client that goes through the arguments two at a time, each flag replacing what an earlier
  one gave, ends up with the options that the last value of each flag gives;
* `requests_carried` — the client learns what was asked, by whom and with which first parameter, and
  different requests have different arguments.
-/

namespace Conformance

namespace Request

/-! ## Making requests -/

/-- The request that the constructor of an opcode makes of parameters; none if it takes another number
    of them. -/
def typed? (opcode : Opcode) (credential : Credential) (params : List String) : Option Request :=
  match opcode, params with
  | .register, [] => some (register credential)
  | .exit, [] => some (exit credential)
  | .persist, [] => some (persist credential)
  | .setProfileFile, [file] => some (setContent credential file)
  | .getProfileFile, [user] => some (getContent credential user)
  | .allUsers, [file] => some (allUsers credential file)
  | .kvInsert, [key, valueFile] => some (kvInsert credential key valueFile)
  | .kvUpdate, [key, valueFile] => some (kvUpdate credential key valueFile)
  | .kvGetOne, [key] => some (kvGet credential key)
  | .kvDelete, [key] => some (kvDelete credential key)
  | .kvGetAll, [file] => some (kvAll credential file)
  | .topKeys, [file] => some (topKeys credential file)
  | .registerMapReduce, [name, file] => some (registerMapReduce credential name file)
  | .mapReduce, [name, file] => some (mapReduce credential name file)
  | _, _ => none

/-- The constructors make every request. -/
theorem typed?_self (request : Request) :
    typed? request.opcode request.credential request.params = some request := by
  obtain ⟨opcode, credential, params, hlength⟩ := request
  -- each opcode leaves one shape of parameters, and that is its constructor's
  cases opcode with
  | register | exit | persist =>
      obtain rfl := List.length_eq_zero_iff.mp hlength
      rfl
  | setProfileFile | getProfileFile | allUsers | kvGetOne | kvDelete | kvGetAll | topKeys =>
      obtain ⟨p, rfl⟩ := List.length_eq_one_iff.mp hlength
      rfl
  | kvInsert | kvUpdate | registerMapReduce | mapReduce =>
      obtain ⟨p, q, rfl⟩ := List.length_eq_two.mp hlength
      rfl

theorem length_of_typed? {opcode : Opcode} {credential : Credential} {params : List String}
    {request : Request} (h : typed? opcode credential params = some request) :
    params.length = opcode.arity := by
  unfold typed? at h
  split at h <;> first | rfl | exact nomatch h

/-- **A list of parameters makes what the constructor makes of them**, and is refused just if the
    constructor does not take so many. -/
theorem new_eq_typed? (opcode : Opcode) (credential : Credential) (params : List String) :
    new opcode credential params =
      match typed? opcode credential params with
      | some request => .ok request
      | none => .error (.arity opcode opcode.arity params.length) := by
  by_cases hlength : params.length = opcode.arity
  · have htyped := typed?_self ⟨opcode, credential, params, hlength⟩
    dsimp only at htyped
    rw [new, dif_pos hlength, htyped]
  · rw [new, dif_neg hlength]
    cases htyped : typed? opcode credential params with
    | none => rfl
    | some request => exact absurd (length_of_typed? htyped) hlength

/-! ## Arguments as pairs -/

/-- The flags for parameters, in order. -/
def paramFlags : List String := ["-1", "-2"]

theorem arity_le (opcode : Opcode) : opcode.arity ≤ paramFlags.length := by
  cases opcode <;> decide

theorem length_params_le (request : Request) : request.params.length ≤ paramFlags.length :=
  request.length_params ▸ arity_le request.opcode

/-- A request has no parameter, one or two. -/
theorem params_cases (request : Request) :
    request.params = [] ∨ (∃ p, request.params = [p]) ∨ ∃ p q, request.params = [p, q] := by
  have hle := request.length_params_le
  match request.params, hle with
  | [], _ => exact Or.inl rfl
  | [p], _ => exact Or.inr (Or.inl ⟨p, rfl⟩)
  | [p, q], _ => exact Or.inr (Or.inr ⟨p, q, rfl⟩)
  | _ :: _ :: _ :: _, hle => exact absurd hle (by simp [paramFlags])

end Request

/-- Pairs of a flag and a value one behind the other. -/
def flatten (pairs : List (String × String)) : List String :=
  pairs.flatMap fun pair => [pair.1, pair.2]

/-- Arguments cut into pairs from the left; an argument that is left over is no pair. -/
def pairsOf : List String → List (String × String)
  | flag :: value :: rest => (flag, value) :: pairsOf rest
  | _ => []

/-- The flags among arguments: those at the places where flags stand. -/
def flagsOf (args : List String) : List String := (pairsOf args).map Prod.fst

/-- Pairs are found again, whatever their values look like. -/
theorem pairs_flatten (pairs : List (String × String)) : pairsOf (flatten pairs) = pairs := by
  induction pairs with
  | nil => rfl
  | cons pair rest ih => exact congrArg (pair :: ·) ih

theorem length_flatten (pairs : List (String × String)) :
    (flatten pairs).length = 2 * pairs.length := by
  induction pairs with
  | nil => rfl
  | cons pair rest ih =>
      show (flatten rest).length + 1 + 1 = 2 * (rest.length + 1)
      rw [ih, Nat.mul_succ]

/-- The pairs on the command line of a request. -/
def ClientSpec.pairs (spec : ClientSpec) (request : Request) : List (String × String) :=
  [("-k", spec.publicKeyFile.display), ("-s", spec.serverAddress), ("-p", Text.decimal spec.port.toNat),
    ("-u", request.credential.name), ("-w", request.credential.password),
    ("-C", request.opcode.token)] ++ Request.paramFlags.zip request.params

theorem Request.paramArgs_eq (request : Request) :
    request.paramArgs = flatten (paramFlags.zip request.params) := by
  rw [paramArgs, param1, param2]
  obtain h | ⟨p, h⟩ | ⟨p, q, h⟩ := request.params_cases
  all_goals rw [h]; rfl

/-- The arguments are the pairs. -/
theorem ClientSpec.args_eq (spec : ClientSpec) (request : Request) :
    (spec.commandLine request).args = flatten (spec.pairs request) := by
  show _ ++ request.paramArgs = _
  rw [request.paramArgs_eq, pairs, flatten, flatten, List.flatMap_append]
  rfl

/-! ## The client's reading -/

namespace Standin.Client.Options

/-- What the client starts from. -/
def initial : Options := ⟨"localhost.pub", "", "", "", ""⟩

/-- Take the value of a flag; other flags are passed over. -/
def give (options : Options) (flag value : String) : Options :=
  match flag with
  | "-k" => { options with keyFile := value }
  | "-u" => { options with user := value }
  | "-w" => { options with password := value }
  | "-C" => { options with opcode := value }
  | "-1" => { options with param := value }
  | _ => options

/-- Go through arguments two at a time, as long as there are two. -/
def read (options : Options) : List String → Options
  | flag :: value :: rest => read (options.give flag value) rest
  | _ => options

/-- Options with the last value of each flag among arguments in place of what they were. -/
def updated (options : Options) (args : List String) : Options where
  keyFile := (flagValue? "-k" args).getD options.keyFile
  user := (flagValue? "-u" args).getD options.user
  password := (flagValue? "-w" args).getD options.password
  opcode := (flagValue? "-C" args).getD options.opcode
  param := (flagValue? "-1" args).getD options.param

/-- A value that comes first counts just if no later one comes. -/
theorem getD_flagValue?_cons (flag key value : String) (rest : List String) (default : String) :
    (flagValue? flag (key :: value :: rest)).getD default =
      (flagValue? flag rest).getD (if key = flag then value else default) := by
  rw [flagValue?]
  cases flagValue? flag rest with
  | some later => rfl
  | none =>
      show (if key = flag then some value else none).getD default = _
      split <;> rfl

/-- A flag changes the option that it names. -/
theorem give_eq (options : Options) (flag value : String) :
    options.give flag value =
      ⟨if flag = "-k" then value else options.keyFile, if flag = "-u" then value else options.user,
        if flag = "-w" then value else options.password, if flag = "-C" then value else options.opcode,
        if flag = "-1" then value else options.param⟩ := by
  unfold give
  split
  · rfl
  · rfl
  · rfl
  · rfl
  · rfl
  · next hk hu hw hC h1 => rw [if_neg hk, if_neg hu, if_neg hw, if_neg hC, if_neg h1]

theorem updated_cons (options : Options) (flag value : String) (rest : List String) :
    options.updated (flag :: value :: rest) = (options.give flag value).updated rest := by
  simp only [updated, getD_flagValue?_cons, give_eq]

theorem read_eq_updated : ∀ (options : Options) (args : List String), options.read args = options.updated args
  | _, [] => rfl
  | _, [_] => rfl
  | options, flag :: value :: rest => by
      rw [updated_cons]
      exact read_eq_updated (options.give flag value) rest

/-- **Reading from the left gives the last value of each flag.** -/
theorem read_eq (args : List String) : initial.read args = ofArgs args := read_eq_updated initial args

theorem read_flatten (options : Options) (pairs : List (String × String)) :
    options.read (flatten pairs) = pairs.foldl (fun options pair => options.give pair.1 pair.2) options := by
  induction pairs generalizing options with
  | nil => rfl
  | cons pair rest ih => exact ih (options.give pair.1 pair.2)

/-- What a client learns of a request. -/
def ofRequest (spec : ClientSpec) (request : Request) : Options where
  keyFile := spec.publicKeyFile.display
  user := request.credential.name
  password := request.credential.password
  opcode := request.opcode.token
  param := request.param1.getD ""

theorem read_args (spec : ClientSpec) (request : Request) :
    initial.read (spec.commandLine request).args = ofRequest spec request := by
  rw [spec.args_eq, read_flatten, ClientSpec.pairs, List.foldl_append, ofRequest, Request.param1]
  -- the second parameter stands behind a flag that is passed over
  obtain h | ⟨p, h⟩ | ⟨p, q, h⟩ := request.params_cases
  all_goals rw [h]; rfl

end Standin.Client.Options

/-! ## Requests and their arguments -/

open Standin.Client (Options)

/-- The arguments of two requests are the same only if the requests are. -/
theorem ClientSpec.args_injective (spec : ClientSpec) {r r' : Request}
    (h : (spec.commandLine r).args = (spec.commandLine r').args) : r = r' := by
  have hoptions : Options.ofRequest spec r = Options.ofRequest spec r' := by
    rw [← Options.read_args, ← Options.read_args, h]
  have hopcode : r.opcode = r'.opcode :=
    Opcode.token_injective (congrArg Options.opcode hoptions)
  have hcredential : r.credential = r'.credential := by
    have hname := congrArg Options.user hoptions
    have hpassword := congrArg Options.password hoptions
    exact Credential.mk.injEq .. ▸ ⟨hname, hpassword⟩
  have hparams : r.params = r'.params := by
    -- the client passes over the second parameter, so the parameters are seen in the pairs only
    have hpairs : spec.pairs r = spec.pairs r' := by
      rw [← pairs_flatten (spec.pairs r), ← spec.args_eq, h, spec.args_eq, pairs_flatten]
    have hzip := congrArg (fun pairs => (pairs.drop 6).map Prod.snd) hpairs
    change (Request.paramFlags.zip r.params).map Prod.snd =
      (Request.paramFlags.zip r'.params).map Prod.snd at hzip
    rwa [List.map_snd_zip r.length_params_le, List.map_snd_zip r'.length_params_le] at hzip
  obtain ⟨opcode, credential, params, hlength⟩ := r
  obtain ⟨opcode', credential', params', hlength'⟩ := r'
  obtain rfl : opcode = opcode' := hopcode
  obtain rfl : credential = credential' := hcredential
  obtain rfl : params = params' := hparams
  rfl

/-- **A path is known from how it is shown just if it is text.** -/
theorem NativePath.ofPath_display_iff (path : NativePath) :
    NativePath.ofPath path.display = path ↔ ∃ text, path = .ofPath text := by
  refine ⟨fun h => ⟨path.display, h.symm⟩, ?_⟩
  rintro ⟨text, rfl⟩
  exact congrArg NativePath.ofPath (Text.decode_encode text)

/-- What the command line of a request says, and what a client makes of it. The key file stands there as
    it is shown, so its path is the one of the specification just if that is text. -/
structure ClientSpec.Carries (spec : ClientSpec) (request : Request) (args : List String) : Prop where
  length : args.length = 12 + 2 * request.opcode.arity
  flags : flagsOf args = ["-k", "-s", "-p", "-u", "-w", "-C"] ++
    Request.paramFlags.take request.opcode.arity
  second : "-2" ∈ flagsOf args → "-1" ∈ flagsOf args
  params : (pairsOf args).drop 6 = Request.paramFlags.zip request.params
  options : Options.initial.read args = Options.ofRequest spec request
  last : Options.ofArgs args = Options.ofRequest spec request
  keyFile : (Options.ofArgs args).keyFile = spec.publicKeyFile.display
  keyPath : NativePath.ofPath (Options.ofArgs args).keyFile = spec.publicKeyFile ↔
    ∃ path, spec.publicKeyFile = .ofPath path
  opcode : Opcode.ofToken? (Options.ofArgs args).opcode = some request.opcode
  param : ∀ first, request.param1 = some first → (Options.ofArgs args).param = first

theorem ClientSpec.commandLine_carries (spec : ClientSpec) (request : Request) :
    spec.Carries request (spec.commandLine request).args := by
  have hle := request.length_params_le
  have hpairs : pairsOf (spec.commandLine request).args = spec.pairs request := by
    rw [spec.args_eq, pairs_flatten]
  have hread := Options.read_args spec request
  have hlast : Options.ofArgs (spec.commandLine request).args = Options.ofRequest spec request :=
    (Options.read_eq _).symm.trans hread
  have hflags : flagsOf (spec.commandLine request).args =
      ["-k", "-s", "-p", "-u", "-w", "-C"] ++ Request.paramFlags.take request.opcode.arity := by
    rw [flagsOf, hpairs, pairs, List.map_append, ← request.length_params]
    obtain h | ⟨p, h⟩ | ⟨p, q, h⟩ := request.params_cases
    all_goals rw [h]; rfl
  refine ⟨?_, hflags, ?_, ?_, hread, hlast, congrArg Options.keyFile hlast, ?_, ?_, ?_⟩
  · rw [spec.args_eq, length_flatten, pairs, List.length_append, List.length_zip,
      Nat.min_eq_right hle, request.length_params]
    show 2 * (6 + _) = _
    rw [Nat.mul_add]
  · rw [hflags]
    cases request.opcode <;> decide
  · rw [hpairs]
    rfl
  · rw [hlast]
    exact NativePath.ofPath_display_iff spec.publicKeyFile
  · rw [hlast]
    exact Opcode.ofToken?_token request.opcode
  · intro first hfirst
    rw [hlast]
    show request.param1.getD "" = first
    rw [hfirst]
    rfl

/-- A specification that is read from a document has a text for the path of its key file. -/
theorem ClientSpec.exists_path_of_data {surplus : Data.Surplus} {base spec : ClientSpec} {data : Data}
    (hbase : ∃ path, base.publicKeyFile = .ofPath path)
    (hread : ofData? surplus base data = some spec) :
    ∃ path, spec.publicKeyFile = .ofPath path := by
  rw [ofData?] at hread
  split at hread
  · next key _ =>
      simp only [Option.bind_eq_bind, Option.bind_eq_some_iff, Option.some.injEq] at hread
      obtain ⟨_, -, _, -, _, -, file, hfile, rfl⟩ := hread
      cases key with
      | none =>
          rw [← Option.some.inj hfile]
          exact hbase
      | some data =>
          obtain ⟨path, -, rfl⟩ := Option.map_eq_some_iff.mp hfile
          exact ⟨path, rfl⟩
  · exact nomatch hread

/-- A user named like a flag, an empty password and a parameter that is a flag are read as they are. -/
example : Options.initial.read ((ClientSpec.commandLine {} (.kvInsert ⟨"-C", ""⟩ "-2" "-k")).args) =
    ⟨"localhost.pub", "-C", "", "KVINSERT", "-2"⟩ := by
  decide

end Conformance
