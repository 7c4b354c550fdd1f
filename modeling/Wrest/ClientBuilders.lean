import Wrest.DueTimes
import Wrest.RequestDeadlines
import Wrest.RetryPolicies

/-!
# Client builders

A client builder collects the settings of a client.  A user agent that is no header value
is kept as an error, which ends the building; a later user agent does not take it back.
-/

namespace Wrest

open LastWrites

/-- `redirect::PolicyInner`. -/
inductive PolicyInner
  | limited (max : Nat)
  | none
deriving DecidableEq, Repr

/-- `redirect::Policy`. -/
structure RedirectPolicy where
  inner : PolicyInner
deriving DecidableEq, Repr

namespace RedirectPolicy

/-- The limit is saturated. -/
def limited (max : Nat) : RedirectPolicy where
  inner := .limited ((tryFromUnsigned u32Max max).getD u32Max)

def none : RedirectPolicy where
  inner := .none

end RedirectPolicy

structure ClientBuilder (Uri : Type) where
  userAgent : String
  timeout : Option Duration
  connectTimeout : Option Duration
  sendTimeout : Option Duration
  readTimeout : Option Duration
  verbose : Bool
  maxConnectionsPerHost : Option UInt32
  proxyConfig : Option ProxyConfig
  defaultHeaders : HeaderMap
  redirectPolicy : Option RedirectPolicy
  tlsDangerAcceptInvalidCerts : Bool
  httpsOnly : Bool
  http1Only : Bool
  error : Option Error
  retryPolicy : Option (Retry.Builder Uri)

/-- The setters of a client builder.  What a user agent converts to is given. -/
inductive ClientSetting (Uri : Type)
  | userAgent (value : Except ErrorSource HeaderValue)
  | timeout (timeout : Duration)
  | connectTimeout (timeout : Duration)
  | sendTimeout (timeout : Duration)
  | readTimeout (timeout : Duration)
  | connectionVerbose (verbose : Bool)
  | maxConnectionsPerHost (max : UInt32)
  | defaultHeaders (headers : HeaderMap)
  | redirect (policy : RedirectPolicy)
  | proxy (call : ProxyCall)
  | tlsDangerAcceptInvalidCerts (accept : Bool)
  | httpsOnly (enabled : Bool)
  | http1Only
  | retry (policy : Retry.Builder Uri)

namespace ClientBuilder

variable {Uri : Type}

def new : ClientBuilder Uri where
  userAgent := ""
  timeout := none
  connectTimeout := none
  sendTimeout := none
  readTimeout := none
  verbose := false
  maxConnectionsPerHost := none
  proxyConfig := none
  defaultHeaders := .empty
  redirectPolicy := none
  tlsDangerAcceptInvalidCerts := false
  httpsOnly := false
  http1Only := false
  error := none
  retryPolicy := none

/-- The text of a user agent, or the error that it leaves in the builder. -/
def userAgentText (value : Except ErrorSource HeaderValue) : Except Error String :=
  match value with
  | .error source => .error (Error.builder (.context "invalid user-agent" source))
  | .ok value =>
    match value.toStr with
    | some text => .ok text
    | none =>
      .error (Error.builder (.context "invalid user-agent value"
        (.foreign "failed to convert header to a str")))

def apply (environment : ProcessEnvironment) (builder : ClientBuilder Uri) :
    ClientSetting Uri → ClientBuilder Uri
  | .userAgent value =>
    match userAgentText value with
    | .ok text => { builder with userAgent := text }
    | .error error => { builder with error := some error }
  | .timeout timeout => { builder with timeout := some timeout }
  | .connectTimeout timeout => { builder with connectTimeout := some timeout }
  | .sendTimeout timeout => { builder with sendTimeout := some timeout }
  | .readTimeout timeout => { builder with readTimeout := some timeout }
  | .connectionVerbose verbose => { builder with verbose := verbose }
  | .maxConnectionsPerHost max => { builder with maxConnectionsPerHost := some max }
  | .defaultHeaders headers => { builder with defaultHeaders := headers }
  | .redirect policy => { builder with redirectPolicy := some policy }
  | .proxy call => { builder with proxyConfig := call.apply environment builder.proxyConfig }
  | .tlsDangerAcceptInvalidCerts accept =>
    { builder with tlsDangerAcceptInvalidCerts := accept }
  | .httpsOnly enabled => { builder with httpsOnly := enabled }
  | .http1Only => { builder with http1Only := true }
  | .retry policy => { builder with retryPolicy := some policy }

/-- The builder after the calls of its setters. -/
def configured (environment : ProcessEnvironment) (settings : List (ClientSetting Uri)) :
    ClientBuilder Uri :=
  settings.foldl (apply environment) new

end ClientBuilder

structure SessionConfig where
  userAgent : String
  connectTimeoutMs : Nat
  sendTimeoutMs : Nat
  readTimeoutMs : Nat
  verbose : Bool
  maxConnectionsPerHost : Option UInt32
  proxy : ProxyAction
  redirectPolicy : Option RedirectPolicy
  http1Only : Bool

namespace ClientBuilder

variable {Uri : Type} (environment : ProcessEnvironment) (builder : ClientBuilder Uri)

def resolvedProxyConfig : ProxyConfig :=
  builder.proxyConfig.getD (.fromEnv environment)

def redirectFollows : Bool :=
  builder.redirectPolicy.map RedirectPolicy.inner != some .none

/-- The configuration of the session that `build` opens. -/
def sessionConfig : SessionConfig where
  userAgent := builder.userAgent
  connectTimeoutMs := (builder.connectTimeout.map winhttpTimeoutMs).getD 60000
  sendTimeoutMs := (builder.sendTimeout.map winhttpTimeoutMs).getD 0
  readTimeoutMs := (builder.readTimeout.map winhttpTimeoutMs).getD 0
  verbose := builder.verbose
  maxConnectionsPerHost := builder.maxConnectionsPerHost
  proxy := sessionProxy (builder.resolvedProxyConfig environment)
  redirectPolicy := builder.redirectPolicy
  http1Only := builder.http1Only

/-- The client that `build` returns. -/
def client (float : RetryBudget.FloatDivision) (foreign : String → Bool) :
    ClientInner Uri where
  defaultHeaders := builder.defaultHeaders
  proxyConfig := builder.resolvedProxyConfig environment
  acceptInvalidCerts := builder.tlsDangerAcceptInvalidCerts
  httpsOnly := builder.httpsOnly
  totalTimeout := builder.timeout.map Duration.asNanos
  retryPolicy := (builder.retryPolicy.getD (.default foreign)).intoPolicy float
  redirectFollows := builder.redirectFollows

end ClientBuilder

section Settings

variable {Uri : Type}

namespace ClientSetting

def userAgent? : ClientSetting Uri → Option String
  | .userAgent value => (ClientBuilder.userAgentText value).toOption
  | _ => none

/-- The error of a user agent that is no header value. -/
def failure? : ClientSetting Uri → Option Error
  | .userAgent value =>
    match ClientBuilder.userAgentText value with
    | .error error => some error
    | .ok _ => none
  | _ => none

def connectTimeout? : ClientSetting Uri → Option Duration
  | .connectTimeout duration => some duration
  | _ => none

def sendTimeout? : ClientSetting Uri → Option Duration
  | .sendTimeout duration => some duration
  | _ => none

def readTimeout? : ClientSetting Uri → Option Duration
  | .readTimeout duration => some duration
  | _ => none

def verbose? : ClientSetting Uri → Option Bool
  | .connectionVerbose verbose => some verbose
  | _ => none

def maxConnectionsPerHost? : ClientSetting Uri → Option UInt32
  | .maxConnectionsPerHost max => some max
  | _ => none

def redirect? : ClientSetting Uri → Option RedirectPolicy
  | .redirect policy => some policy
  | _ => none

def proxy? : ClientSetting Uri → Option ProxyCall
  | .proxy call => some call
  | _ => none

def httpsOnly? : ClientSetting Uri → Option Bool
  | .httpsOnly enabled => some enabled
  | _ => none

def http1Only? : ClientSetting Uri → Option Bool
  | .http1Only => some true
  | _ => none

end ClientSetting

open ClientSetting

variable (environment : ProcessEnvironment) (settings : List (ClientSetting Uri))

/-- The configuration that the last setting of each part asks for. -/
def requestedConfig : SessionConfig where
  userAgent := (lastWrite userAgent? settings).getD ""
  connectTimeoutMs := ((lastWrite connectTimeout? settings).map winhttpTimeoutMs).getD 60000
  sendTimeoutMs := ((lastWrite sendTimeout? settings).map winhttpTimeoutMs).getD 0
  readTimeoutMs := ((lastWrite readTimeout? settings).map winhttpTimeoutMs).getD 0
  verbose := (lastWrite verbose? settings).getD false
  maxConnectionsPerHost := lastWrite maxConnectionsPerHost? settings
  proxy := sessionProxy (buildProxyConfig environment (settings.filterMap proxy?))
  redirectPolicy := lastWrite redirect? settings
  http1Only := (lastWrite http1Only? settings).getD false

/-- What one setting changes. -/
structure Applies (builder next : ClientBuilder Uri) (setting : ClientSetting Uri) :
    Prop where
  userAgent : next.userAgent = setting.userAgent?.getD builder.userAgent
  error : next.error = setting.failure?.or builder.error
  connectTimeout : next.connectTimeout = setting.connectTimeout?.or builder.connectTimeout
  sendTimeout : next.sendTimeout = setting.sendTimeout?.or builder.sendTimeout
  readTimeout : next.readTimeout = setting.readTimeout?.or builder.readTimeout
  verbose : next.verbose = setting.verbose?.getD builder.verbose
  maxConnectionsPerHost :
    next.maxConnectionsPerHost = setting.maxConnectionsPerHost?.or builder.maxConnectionsPerHost
  redirectPolicy : next.redirectPolicy = setting.redirect?.or builder.redirectPolicy
  httpsOnly : next.httpsOnly = setting.httpsOnly?.getD builder.httpsOnly
  http1Only : next.http1Only = setting.http1Only?.getD builder.http1Only
  proxyConfig : next.proxyConfig =
    (setting.proxy?.map fun call => call.apply environment builder.proxyConfig).getD
      builder.proxyConfig

theorem apply_applies (builder : ClientBuilder Uri) (setting : ClientSetting Uri) :
    Applies environment builder (builder.apply environment setting) setting := by
  cases setting with
  | userAgent value =>
    cases text : ClientBuilder.userAgentText value with
    | ok value' =>
      have applies : builder.apply environment (.userAgent value) =
          { builder with userAgent := value' } := by
        simp only [ClientBuilder.apply, text]
      rw [applies]
      constructor <;> try rfl
      · simp [userAgent?, text, Except.toOption]
      · simp [failure?, text]
    | error error =>
      have applies : builder.apply environment (.userAgent value) =
          { builder with error := some error } := by
        simp only [ClientBuilder.apply, text]
      rw [applies]
      constructor <;> try rfl
      · simp [userAgent?, text, Except.toOption]
      · simp [failure?, text]
  | _ => constructor <;> rfl

namespace ClientBuilder

/-- The builder has one part for each kind of setting, which the last setting of the kind
decides. -/
theorem configured_eq {Value : Type} {write? : ClientSetting Uri → Option Value}
    (part : ClientBuilder Uri → Value)
    (writes : ∀ builder next setting, Applies environment builder next setting →
      part next = (write? setting).getD (part builder)) :
    part (configured environment settings) =
      (lastWrite write? settings).getD (part .new) :=
  foldl_getD part (fun builder setting =>
    writes _ _ _ (apply_applies environment builder setting)) settings .new

theorem configured_option {Value : Type} {write? : ClientSetting Uri → Option Value}
    (part : ClientBuilder Uri → Option Value)
    (writes : ∀ builder next setting, Applies environment builder next setting →
      part next = (write? setting).or (part builder))
    (unset : part (.new : ClientBuilder Uri) = none) :
    part (configured environment settings) = lastWrite write? settings := by
  have parts := foldl_or part (fun builder setting =>
    writes _ _ _ (apply_applies environment builder setting)) settings .new
  rw [unset, Option.or_none] at parts
  exact parts

theorem configured_error :
    (configured environment settings).error = lastWrite failure? settings :=
  configured_option environment settings ClientBuilder.error
    (fun _ _ _ applies => applies.error) rfl

theorem configured_redirectPolicy :
    (configured environment settings).redirectPolicy = lastWrite redirect? settings :=
  configured_option environment settings redirectPolicy
    (fun _ _ _ applies => applies.redirectPolicy) rfl

theorem configured_httpsOnly :
    (configured environment settings).httpsOnly =
      (lastWrite httpsOnly? settings).getD false :=
  configured_eq environment settings ClientBuilder.httpsOnly
    fun _ _ _ applies => applies.httpsOnly

/-- The proxies are configured in the order of their calls. -/
theorem configured_proxyConfig :
    (configured environment settings).proxyConfig =
      (settings.filterMap proxy?).foldl (ProxyCall.apply environment) none := by
  have keeps (builder : ClientBuilder Uri) :
      (settings.foldl (apply environment) builder).proxyConfig =
        (settings.filterMap proxy?).foldl (ProxyCall.apply environment)
          builder.proxyConfig := by
    induction settings generalizing builder with
    | nil => rfl
    | cons setting settings ih =>
      rw [List.foldl_cons, ih, (apply_applies environment builder setting).proxyConfig,
        List.filterMap_cons]
      cases setting.proxy? <;> rfl
  exact keeps .new

theorem configured_sessionConfig :
    (configured environment settings).sessionConfig environment =
      requestedConfig environment settings := by
  have agent := configured_eq environment settings ClientBuilder.userAgent
    fun _ _ _ applies => applies.userAgent
  have connect := configured_option environment settings connectTimeout
    (fun _ _ _ applies => applies.connectTimeout) rfl
  have send := configured_option environment settings sendTimeout
    (fun _ _ _ applies => applies.sendTimeout) rfl
  have read := configured_option environment settings readTimeout
    (fun _ _ _ applies => applies.readTimeout) rfl
  have verbosity := configured_eq environment settings verbose
    fun _ _ _ applies => applies.verbose
  have connections := configured_option environment settings maxConnectionsPerHost
    (fun _ _ _ applies => applies.maxConnectionsPerHost) rfl
  have http1 := configured_eq environment settings http1Only
    fun _ _ _ applies => applies.http1Only
  unfold sessionConfig requestedConfig resolvedProxyConfig
  rw [configured_proxyConfig, configured_redirectPolicy, agent, connect, send, read, verbosity,
    connections, http1]
  rfl

end ClientBuilder

end Settings

end Wrest
