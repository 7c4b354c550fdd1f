import Wrest.SourceStrings

/-!
# Parsed URLs and origins

A parsed URL stores its serialised form together with the components that the
transport reads.  The username and password are kept outside the serialised
form.  An origin is the scheme, host and port of a URL with the first two
lower-cased, so that comparing origins ignores letter case.
-/

namespace Wrest

structure Url where
  serialized : String
  scheme : String
  host : String
  port : Nat
  explicitPort : Bool
  path : String
  query : Option String
  fragment : Option String
  isHttps : Bool
  pathAndQuery : String
  username : String
  password : Option String
deriving DecidableEq, Repr

/-- An HTTP origin: scheme, host and port. -/
structure Origin where
  scheme : String
  host : String
  port : Nat
deriving DecidableEq, Repr

namespace Origin

def new (scheme host : String) (port : Nat) : Origin where
  scheme := toAsciiLowercase scheme
  host := toAsciiLowercase host
  port := port

def fromUrl (url : Url) : Origin :=
  new url.scheme url.host url.port

end Origin

def bareUrl (isHttps : Bool) : Url where
  serialized := (if isHttps then "https" else "http") ++ "://a/"
  scheme := if isHttps then "https" else "http"
  host := "a"
  port := if isHttps then 443 else 80
  explicitPort := false
  path := "/"
  query := none
  fragment := none
  isHttps
  pathAndQuery := "/"
  username := ""
  password := none

end Wrest
