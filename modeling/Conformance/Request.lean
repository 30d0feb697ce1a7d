import Conformance.Opcode
import Conformance.Reply
import Conformance.Text.Quoted

/-!
# Credentials and requests

A request is an opcode, the credential it authenticates with, and exactly as many parameters as the
opcode takes; the count is part of the type, so a command line can only carry well-formed requests.
Everything that can be wrong about a request is found while it is built, and is a `ProtocolError`.
-/

namespace Conformance

/-- The two halves of a credential. -/
inductive CredentialPart where
  | name
  | password
deriving DecidableEq, Repr

/-- The word for a half in messages. -/
def CredentialPart.word : CredentialPart → String
  | name => "name"
  | password => "password"

/-- Why a request, a token or a credential was refused. -/
inductive ProtocolError where
  | arity (opcode : Opcode) (expected got : Nat)
  | emptyCredential (part : CredentialPart)
  | unknownOpcode (text : String)
  | unknownReply (text : String)
deriving DecidableEq, Repr

/-- The message of the error. -/
def ProtocolError.message : ProtocolError → String
  | arity opcode expected got =>
    opcode.token ++ " takes " ++ Text.decimal expected ++ " parameter(s), got " ++ Text.decimal got
  | emptyCredential part => "credential " ++ part.word ++ " must not be empty"
  | unknownOpcode text => "unknown opcode: " ++ Text.quoted text
  | unknownReply text => "unknown reply code: " ++ Text.quoted text

/-- The opcode of a token, or the token as unknown. -/
def Opcode.parse (text : String) : Except ProtocolError Opcode :=
  match Opcode.ofToken? text with
  | some opcode => .ok opcode
  | none => .error (.unknownOpcode text)

/-- The reply of a token, or the token as unknown. -/
def Reply.parse (text : String) : Except ProtocolError Reply :=
  match Reply.ofToken? text with
  | some reply => .ok reply
  | none => .error (.unknownReply text)

/-- A user's name and password. -/
structure Credential where
  name : String
  password : String
deriving DecidableEq, Repr

namespace Credential

/-- A credential of two non-empty halves; an empty name is reported before an empty password. -/
def new (name password : String) : Except ProtocolError Credential :=
  if name = "" then .error (.emptyCredential .name)
  else if password = "" then .error (.emptyCredential .password)
  else .ok ⟨name, password⟩

/-- The same name with another password. -/
def impostor (credential : Credential) (password : String) : Credential :=
  { credential with password := password }

end Credential

/-- One invocation of the client: what is asked, by whom, and with which parameters. -/
structure Request where
  opcode : Opcode
  credential : Credential
  params : List String
  length_params : params.length = opcode.arity
deriving DecidableEq, Repr

namespace Request

/-- A request from a list of parameters, refused unless there are as many as the opcode takes. -/
def new (opcode : Opcode) (credential : Credential) (params : List String) :
    Except ProtocolError Request :=
  if h : params.length = opcode.arity then .ok ⟨opcode, credential, params, h⟩
  else .error (.arity opcode opcode.arity params.length)

/-- The first parameter of a request that takes one. -/
def param1 (request : Request) : Option String := request.params[0]?

/-- The second parameter of a request that takes two. -/
def param2 (request : Request) : Option String := request.params[1]?

variable (credential : Credential)

/-- Register the user. -/
def register : Request := ⟨.register, credential, [], rfl⟩

/-- Shut the server down. -/
def exit : Request := ⟨.exit, credential, [], rfl⟩

/-- Have the server write its directory file. -/
def persist : Request := ⟨.persist, credential, [], rfl⟩

/-- Store a file as the user's content. -/
def setContent (file : String) : Request := ⟨.setProfileFile, credential, [file], rfl⟩

/-- Fetch a user's content; the client leaves it in `<user>.file.dat`. -/
def getContent (user : String) : Request := ⟨.getProfileFile, credential, [user], rfl⟩

/-- Write the names of all users to a file. -/
def allUsers (file : String) : Request := ⟨.allUsers, credential, [file], rfl⟩

/-- Insert the value in a file under a key. -/
def kvInsert (key valueFile : String) : Request := ⟨.kvInsert, credential, [key, valueFile], rfl⟩

/-- Insert or replace the value under a key. -/
def kvUpdate (key valueFile : String) : Request := ⟨.kvUpdate, credential, [key, valueFile], rfl⟩

/-- Fetch the value under a key. -/
def kvGet (key : String) : Request := ⟨.kvGetOne, credential, [key], rfl⟩

/-- Delete a key. -/
def kvDelete (key : String) : Request := ⟨.kvDelete, credential, [key], rfl⟩

/-- Write all keys to a file. -/
def kvAll (file : String) : Request := ⟨.kvGetAll, credential, [file], rfl⟩

/-- Write the most used keys to a file. -/
def topKeys (file : String) : Request := ⟨.topKeys, credential, [file], rfl⟩

/-- Register a map/reduce function from a library file. -/
def registerMapReduce (name file : String) : Request :=
  ⟨.registerMapReduce, credential, [name, file], rfl⟩

/-- Run a registered map/reduce function into a file. -/
def mapReduce (name file : String) : Request := ⟨.mapReduce, credential, [name, file], rfl⟩

end Request

end Conformance
