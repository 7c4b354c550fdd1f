import Wrest.RequestUrls

/-!
# Proxy configuration

A client builder collects the proxies that are added to it and whether proxy
detection was disabled; environment variables fill in what nothing overrides.
The configuration that results is consulted twice: once when the client is
built, for the proxy of the whole session, and once for each request.
-/

namespace Wrest

/-- User name and password for a proxy. -/
abbrev ProxyCredentials : Type := String × String

inductive ProxyKind
  | all
  | http
  | https
deriving DecidableEq, Repr

structure Proxy where
  kind : ProxyKind
  url : String
  creds : Option ProxyCredentials
deriving DecidableEq, Repr

/-- A single pattern of a `NO_PROXY` list, in lower case. -/
inductive NoProxyPattern
  | wildcard
  | exact (host : String)
  | domainSuffix (suffix : String)
deriving DecidableEq, Repr

/-- What proxy action to take for a given request. -/
inductive ProxyAction
  | direct
  | named (url : String) (creds : Option ProxyCredentials)
  | automatic
deriving DecidableEq, Repr

structure ProxyConfig where
  httpProxyUrl : Option String
  httpsProxyUrl : Option String
  noProxy : List NoProxyPattern
  httpProxyCreds : Option ProxyCredentials
  httpsProxyCreds : Option ProxyCredentials
deriving DecidableEq, Repr

namespace NoProxyPattern

/-- Whether the pattern matches a host, ignoring letter case. -/
def isMatch (pattern : NoProxyPattern) (host : String) : Bool :=
  let hostLower := toAsciiLowercase host
  match pattern with
  | .wildcard => true
  | .exact host => hostLower == host
  | .domainSuffix suffix =>
    hostLower == suffix || ('.' :: suffix.toList).isSuffixOf hostLower.toList

end NoProxyPattern

/-- The pattern of one trimmed, nonempty entry. -/
def noProxyPattern (entry : List Char) : NoProxyPattern :=
  if entry = ['*'] then
    .wildcard
  else
    match entry with
    | '.' :: suffix => .domainSuffix (toAsciiLowercase (String.ofList suffix))
    | _ =>
      if entry.contains '.' then
        .domainSuffix (toAsciiLowercase (String.ofList entry))
      else
        .exact (toAsciiLowercase (String.ofList entry))

/-- Parse the value of `NO_PROXY`. -/
def parseNoProxy (value : String) : List NoProxyPattern :=
  (((value.toList.splitOn ',').map trim).filter fun entry => !entry.isEmpty).map
    noProxyPattern

abbrev ProcessEnvironment : Type := String → Option String

/-- An environment variable, where an empty one counts as unset. -/
def readEnvVar (environment : ProcessEnvironment) (name : String) : Option String :=
  (environment name).filter fun value => value != ""

namespace ProxyConfig

def fromEnv (environment : ProcessEnvironment) : ProxyConfig where
  httpProxyUrl := readEnvVar environment "HTTP_PROXY"
  httpsProxyUrl := readEnvVar environment "HTTPS_PROXY"
  noProxy := ((readEnvVar environment "NO_PROXY").map parseNoProxy).getD []
  httpProxyCreds := none
  httpsProxyCreds := none

def none : ProxyConfig where
  httpProxyUrl := Option.none
  httpsProxyUrl := Option.none
  noProxy := []
  httpProxyCreds := Option.none
  httpsProxyCreds := Option.none

/-- The configuration that ignores environment variables. -/
def noneFromEnv : ProxyConfig :=
  none

def bypasses (config : ProxyConfig) (host : String) : Bool :=
  config.noProxy.any fun pattern => pattern.isMatch host

def proxyFor (config : ProxyConfig) (isHttps : Bool) :
    Option String × Option ProxyCredentials :=
  if isHttps then
    (config.httpsProxyUrl, config.httpsProxyCreds)
  else
    (config.httpProxyUrl, config.httpProxyCreds)

def resolve (config : ProxyConfig) (host : String) (isHttps : Bool) :
    ProxyAction :=
  if config.bypasses host then
    .direct
  else
    match config.proxyFor isHttps with
    | (some url, creds) => .named url creds
    | (Option.none, _) => .automatic

end ProxyConfig

def Proxy.applyTo (proxy : Proxy) (config : ProxyConfig) : ProxyConfig :=
  match proxy.kind with
  | .all =>
    { config with
      httpProxyUrl := some proxy.url
      httpsProxyUrl := some proxy.url
      httpProxyCreds := proxy.creds
      httpsProxyCreds := proxy.creds }
  | .http =>
    { config with httpProxyUrl := some proxy.url, httpProxyCreds := proxy.creds }
  | .https =>
    { config with httpsProxyUrl := some proxy.url, httpsProxyCreds := proxy.creds }

inductive ProxyCall
  | proxy (proxy : Proxy)
  | noProxy
deriving DecidableEq, Repr

def ProxyCall.apply (environment : ProcessEnvironment)
    (config : Option ProxyConfig) : ProxyCall → Option ProxyConfig
  | .proxy added =>
    some (added.applyTo (config.getD (.fromEnv environment)))
  | .noProxy => some .noneFromEnv

/-- The configuration that `build` takes from the builder. -/
def buildProxyConfig (environment : ProcessEnvironment) (calls : List ProxyCall) :
    ProxyConfig :=
  (calls.foldl (ProxyCall.apply environment) none).getD (.fromEnv environment)

/-- The proxy of the session that `build` opens. -/
def sessionProxy (config : ProxyConfig) : ProxyAction :=
  if config.httpsProxyUrl.isSome || config.httpProxyUrl.isSome then
    .named ((config.httpsProxyUrl.or config.httpProxyUrl).getD "") none
  else
    .automatic

end Wrest
