/-!
# Replies

The lines with which a client answers, one per invocation. A line is compared with a token as a
whole: no case folding, no trimming.
-/

namespace Conformance

/-- What the client reports about its request. -/
inductive Reply where
  | ok
  | errLogin
  | errUserExists
  | errReqFmt
  | errNoData
  | errNoUser
  | errKey
  | errQuotaUp
  | errQuotaDown
  | errQuotaReq
  | errSo
  | errFunc
  | errMsgFmt
  | errCrypto
  | errXmit
  | errServer
deriving DecidableEq, Repr

namespace Reply

/-- Every reply, in the order of their numbers. -/
def all : List Reply :=
  [.ok, .errLogin, .errUserExists, .errReqFmt, .errNoData, .errNoUser, .errKey, .errQuotaUp,
    .errQuotaDown, .errQuotaReq, .errSo, .errFunc, .errMsgFmt, .errCrypto, .errXmit, .errServer]

/-- The line that the client prints. -/
def token : Reply → String
  | ok => "___OK___"
  | errLogin => "ERR_LOGIN"
  | errUserExists => "ERR_USER_EXISTS"
  | errReqFmt => "ERR_REQ_FMT"
  | errNoData => "ERR_NO_DATA"
  | errNoUser => "ERR_NO_USER"
  | errKey => "ERR_KEY"
  | errQuotaUp => "ERR_QUOTA_UP"
  | errQuotaDown => "ERR_QUOTA_DOWN"
  | errQuotaReq => "ERR_QUOTA_REQ"
  | errSo => "ERR_SO"
  | errFunc => "ERR_FUNC"
  | errMsgFmt => "ERR_MSG_FMT"
  | errCrypto => "ERR_CRYPTO"
  | errXmit => "ERR_XMIT"
  | errServer => "ERR_SERVER"

/-- The name under which data files spell the reply. -/
def label : Reply → String
  | ok => "Ok"
  | errLogin => "ErrLogin"
  | errUserExists => "ErrUserExists"
  | errReqFmt => "ErrReqFmt"
  | errNoData => "ErrNoData"
  | errNoUser => "ErrNoUser"
  | errKey => "ErrKey"
  | errQuotaUp => "ErrQuotaUp"
  | errQuotaDown => "ErrQuotaDown"
  | errQuotaReq => "ErrQuotaReq"
  | errSo => "ErrSo"
  | errFunc => "ErrFunc"
  | errMsgFmt => "ErrMsgFmt"
  | errCrypto => "ErrCrypto"
  | errXmit => "ErrXmit"
  | errServer => "ErrServer"

/-- The position among all replies. -/
def index (reply : Reply) : Nat := all.idxOf reply

/-- The reply with a token. -/
def ofToken? (text : String) : Option Reply := all.find? fun reply => reply.token = text

theorem mem_all (reply : Reply) : reply ∈ all := by
  cases reply <;> decide

/-- A token is read back as its reply. -/
theorem ofToken?_token (reply : Reply) : ofToken? reply.token = some reply := by
  cases reply <;> decide

end Reply

end Conformance
