/-!
# Opcodes

The requests that a client can make, each with its fixed token of eight characters and the number of
parameters it takes. `Opcode.all` lists them in the order in which they are numbered.
-/

namespace Conformance

/-- What a client asks of the server. -/
inductive Opcode where
  | register
  | exit
  | setProfileFile
  | getProfileFile
  | allUsers
  | kvInsert
  | kvUpdate
  | kvGetOne
  | kvDelete
  | kvGetAll
  | topKeys
  | registerMapReduce
  | mapReduce
  | persist
deriving DecidableEq, Repr

namespace Opcode

/-- Every opcode, in the order of their numbers. -/
def all : List Opcode :=
  [.register, .exit, .setProfileFile, .getProfileFile, .allUsers, .kvInsert, .kvUpdate, .kvGetOne,
    .kvDelete, .kvGetAll, .topKeys, .registerMapReduce, .mapReduce, .persist]

/-- The token on the client's command line. -/
def token : Opcode → String
  | register => "REGISTER"
  | exit => "EXIT____"
  | setProfileFile => "SETPFILE"
  | getProfileFile => "GETPFILE"
  | allUsers => "ALLUSERS"
  | kvInsert => "KVINSERT"
  | kvUpdate => "KVUPDATE"
  | kvGetOne => "KVGETONE"
  | kvDelete => "KVDELETE"
  | kvGetAll => "KVGETALL"
  | topKeys => "TOP_KEYS"
  | registerMapReduce => "REG_MR__"
  | mapReduce => "MAP__RED"
  | persist => "PERSIST_"

/-- The name under which data files spell the opcode. -/
def label : Opcode → String
  | register => "Register"
  | exit => "Exit"
  | setProfileFile => "SetProfileFile"
  | getProfileFile => "GetProfileFile"
  | allUsers => "AllUsers"
  | kvInsert => "KvInsert"
  | kvUpdate => "KvUpdate"
  | kvGetOne => "KvGetOne"
  | kvDelete => "KvDelete"
  | kvGetAll => "KvGetAll"
  | topKeys => "TopKeys"
  | registerMapReduce => "RegisterMapReduce"
  | mapReduce => "MapReduce"
  | persist => "Persist"

/-- The number of parameters that the request takes. -/
def arity : Opcode → Nat
  | register | exit | persist => 0
  | setProfileFile | getProfileFile | allUsers | kvGetOne | kvDelete | kvGetAll | topKeys => 1
  | kvInsert | kvUpdate | registerMapReduce | mapReduce => 2

/-- The position among all opcodes. -/
def index (opcode : Opcode) : Nat := all.idxOf opcode

/-- The opcode with a token. -/
def ofToken? (text : String) : Option Opcode := all.find? fun opcode => opcode.token = text

/-- The width of every token. -/
def tokenWidth : Nat := 8

theorem mem_all (opcode : Opcode) : opcode ∈ all := by
  cases opcode <;> decide

theorem length_token (opcode : Opcode) : opcode.token.length = tokenWidth := by
  cases opcode <;> rfl

/-- No two opcodes share a token. -/
theorem token_injective {a b : Opcode} (h : a.token = b.token) : a = b := by
  cases a <;> cases b <;> first | rfl | (exact absurd h (by decide))

/-- A token is read back as its opcode. -/
theorem ofToken?_token (opcode : Opcode) : ofToken? opcode.token = some opcode := by
  cases opcode <;> decide

end Opcode

end Conformance
