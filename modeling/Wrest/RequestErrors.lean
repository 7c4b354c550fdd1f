import Wrest.RequestUrls

/-!
# Errors of the client

An error carries a kind, the chain of sources behind it, an optional status
code and an optional request URL.  Failures of the transport arrive as Win32
codes and are classified in one place, `Error.fromWin32`.
-/

namespace Wrest

inductive ErrorKind
  | builder
  | connect
  | timeout
  | status
  | request
  | body
  | redirect
  | decode
deriving DecidableEq, Repr

/-- The source chain of an error.  `io` is the operating-system error made from
a Win32 code, `writeZero` the I/O error of a write without progress, `context`
a message in front of another source, `error` a nested client error, and
`foreign` a boxed error of another crate. -/
inductive ErrorSource
  | message (text : String)
  | io (code : Nat)
  | writeZero (text : String)
  | signalCancelled
  | foreign (text : String)
  | context (text : String) (source : ErrorSource)
  | error (kind : ErrorKind) (source : Option ErrorSource)
      (status : Option Nat) (url : Option Url)

structure Error where
  kind : ErrorKind
  source : Option ErrorSource
  status : Option Nat
  url : Option Url

namespace Win32

def ERROR_WINHTTP_TIMEOUT : Nat := 12002
def ERROR_WINHTTP_NAME_NOT_RESOLVED : Nat := 12007
def ERROR_WINHTTP_OPERATION_CANCELLED : Nat := 12017
def ERROR_WINHTTP_CANNOT_CONNECT : Nat := 12029
def ERROR_WINHTTP_CONNECTION_ERROR : Nat := 12030
def ERROR_WINHTTP_CLIENT_AUTH_CERT_NEEDED : Nat := 12044
def ERROR_WINHTTP_HEADER_NOT_FOUND : Nat := 12150
def ERROR_WINHTTP_REDIRECT_FAILED : Nat := 12156
def ERROR_WINHTTP_SECURE_FAILURE : Nat := 12175
def ERROR_WINHTTP_CLIENT_CERT_NO_PRIVATE_KEY : Nat := 12185
def ERROR_WINHTTP_CLIENT_CERT_NO_ACCESS_PRIVATE_KEY : Nat := 12186
def ERROR_WINHTTP_CLIENT_AUTH_CERT_NEEDED_PROXY : Nat := 12187

/-- `ERROR_INVALID_HANDLE`, the synchronous failure of a call on a closed
handle. -/
def ERROR_INVALID_HANDLE : Nat := 6

end Win32

open Win32

/-- The single classification of Win32 and WinHTTP codes. -/
def errorKindFromWin32 (code : Nat) : ErrorKind :=
  if code = ERROR_WINHTTP_CANNOT_CONNECT ∨
      code = ERROR_WINHTTP_NAME_NOT_RESOLVED ∨
      code = ERROR_WINHTTP_CONNECTION_ERROR ∨
      code = ERROR_WINHTTP_SECURE_FAILURE ∨
      code = ERROR_WINHTTP_CLIENT_AUTH_CERT_NEEDED ∨
      code = ERROR_WINHTTP_CLIENT_AUTH_CERT_NEEDED_PROXY ∨
      code = ERROR_WINHTTP_CLIENT_CERT_NO_PRIVATE_KEY ∨
      code = ERROR_WINHTTP_CLIENT_CERT_NO_ACCESS_PRIVATE_KEY then
    .connect
  else if code = ERROR_WINHTTP_TIMEOUT then
    .timeout
  else if code = ERROR_WINHTTP_REDIRECT_FAILED then
    .redirect
  else
    .request

namespace ErrorSource

/-- `raw_os_error` of the I/O error made from a code: the codes with a mapped
kind are wrapped, and then the raw code is no longer visible. -/
def rawOsError : ErrorSource → Option Nat
  | .io code =>
    if code = ERROR_WINHTTP_CANNOT_CONNECT ∨
        code = ERROR_WINHTTP_CONNECTION_ERROR ∨
        code = ERROR_WINHTTP_TIMEOUT then
      none
    else
      some code
  | _ => none

end ErrorSource

namespace Error

def withKind (kind : ErrorKind) (source : ErrorSource) : Error where
  kind := kind
  source := some source
  status := none
  url := none

def timeout (source : ErrorSource) : Error := withKind .timeout source

def body (source : ErrorSource) : Error := withKind .body source

def request (source : ErrorSource) : Error := withKind .request source

def fromWin32 (code : Nat) : Error where
  kind := errorKindFromWin32 code
  source := some (.io code)
  status := none
  url := none

def withUrl (error : Error) (url : Url) : Error :=
  { error with url := some url }

def isConnect (error : Error) : Bool :=
  error.kind = .connect

/-- The error of an operation whose completion was never signalled. -/
def fromSignalCancelled : Error := request .signalCancelled

def asSource (error : Error) : ErrorSource :=
  .error error.kind error.source error.status error.url

@[simp]
theorem withUrl_kind (error : Error) (url : Url) :
    (error.withUrl url).kind = error.kind :=
  rfl

end Error

end Wrest
