import Wrest.EffectiveProxies
import Mathlib.Data.List.Induction

/-!
# Clients on which proxy detection was disabled

`no_proxy` replaces the configuration that the builder has collected so far, so
only the proxies added after its last call remain, and a scheme without one of
them is left to the session.  The proxies that the caller asked for are the ones
added anywhere in the sequence of calls.
-/

namespace Wrest.EffectiveProxy

open Interaction

/-- Proxies of the kind carry the traffic of the scheme. -/
def carries : ProxyKind → Bool → Bool
  | .all, _ => true
  | .http, isHttps => !isHttps
  | .https, isHttps => isHttps

def added : ProxyCall → Option Proxy
  | .proxy proxy => some proxy
  | .noProxy => none

/-- The last proxy added for a scheme. -/
def lastProxyFor (isHttps : Bool) (calls : List ProxyCall) : Option Proxy :=
  ((calls.filterMap added).filter fun proxy => carries proxy.kind isHttps).getLast?

def afterNoProxy (calls : List ProxyCall) : List ProxyCall :=
  calls.rtakeWhile fun call => call != .noProxy

/-- The action that the caller asked for: the last proxy added for the scheme,
and otherwise a direct connection. -/
def requestedProxy (calls : List ProxyCall) (isHttps : Bool) : ProxyAction :=
  match lastProxyFor isHttps calls with
  | some proxy => .named proxy.url proxy.creds
  | none => .direct

theorem lastProxyFor_append (isHttps : Bool) (first second : List ProxyCall) :
    lastProxyFor isHttps (first ++ second) =
      (lastProxyFor isHttps second).or (lastProxyFor isHttps first) := by
  simp [lastProxyFor, List.getLast?_append]

theorem lastProxyFor_concat_proxy (isHttps : Bool) (calls : List ProxyCall)
    (proxy : Proxy) :
    lastProxyFor isHttps (calls ++ [.proxy proxy]) =
      if carries proxy.kind isHttps then some proxy else lastProxyFor isHttps calls := by
  rw [lastProxyFor_append]
  cases carried : carries proxy.kind isHttps <;>
    simp [lastProxyFor, added, carried]

theorem lastProxyFor_of_afterNoProxy {isHttps : Bool} {calls : List ProxyCall}
    {proxy : Proxy}
    (last : lastProxyFor isHttps (afterNoProxy calls) = some proxy) :
    lastProxyFor isHttps calls = some proxy := by
  have split : calls.rdropWhile (fun call => call != .noProxy) ++ afterNoProxy calls =
      calls := List.rdropWhile_append_rtakeWhile
  rw [← split, lastProxyFor_append, last]
  rfl

theorem applyTo_proxyFor (proxy : Proxy) (config : ProxyConfig) (isHttps : Bool) :
    (proxy.applyTo config).proxyFor isHttps =
      if carries proxy.kind isHttps then (some proxy.url, proxy.creds)
      else config.proxyFor isHttps := by
  obtain ⟨kind, url, creds⟩ := proxy
  cases kind <;> cases isHttps <;> rfl

theorem applyTo_noProxy (proxy : Proxy) (config : ProxyConfig) :
    (proxy.applyTo config).noProxy = config.noProxy := by
  obtain ⟨kind, url, creds⟩ := proxy
  cases kind <;> rfl

def stored : Option Proxy → Option String × Option ProxyCredentials
  | some proxy => (some proxy.url, proxy.creds)
  | none => (none, none)

/-- After a `no_proxy`, the configuration holds the proxies added since, and
bypasses no host. -/
theorem foldl_apply_of_noProxy (environment : ProcessEnvironment)
    {calls : List ProxyCall} (disabled : .noProxy ∈ calls) :
    ∃ config, calls.foldl (ProxyCall.apply environment) none = some config ∧
      config.noProxy = [] ∧
      ∀ isHttps, config.proxyFor isHttps =
        stored (lastProxyFor isHttps (afterNoProxy calls)) := by
  induction calls using List.reverseRecOn with
  | nil => cases disabled
  | append_singleton calls call ih =>
    rw [List.foldl_concat]
    cases call with
    | noProxy =>
      refine ⟨.noneFromEnv, rfl, rfl, fun isHttps => ?_⟩
      have dropped : afterNoProxy (calls ++ [.noProxy]) = [] := by
        simp [afterNoProxy]
      rw [dropped]
      cases isHttps <;> rfl
    | proxy proxy =>
      have earlier : ProxyCall.noProxy ∈ calls := by simpa using disabled
      obtain ⟨config, folded, noBypass, proxies⟩ := ih earlier
      have kept : afterNoProxy (calls ++ [.proxy proxy]) =
          afterNoProxy calls ++ [.proxy proxy] := by
        simp [afterNoProxy]
      refine ⟨proxy.applyTo config, by rw [folded]; rfl,
        (applyTo_noProxy _ _).trans noBypass, fun isHttps => ?_⟩
      rw [applyTo_proxyFor, kept, lastProxyFor_concat_proxy, proxies]
      split <;> rfl

/-- The action that such a client uses: a scheme without a proxy added since the
last `no_proxy` uses the other scheme's proxy, or detection. -/
theorem effectiveProxy_of_noProxy (environment : ProcessEnvironment)
    {calls : List ProxyCall} (disabled : .noProxy ∈ calls) (host : String)
    (isHttps : Bool) :
    effectiveProxy (buildProxyConfig environment calls) host isHttps =
      match lastProxyFor isHttps (afterNoProxy calls),
        lastProxyFor (!isHttps) (afterNoProxy calls) with
      | some proxy, _ => .named proxy.url proxy.creds
      | none, some proxy => .named proxy.url none
      | none, none => .automatic := by
  obtain ⟨config, folded, noBypass, proxies⟩ :=
    foldl_apply_of_noProxy environment disabled
  have built : buildProxyConfig environment calls = config := by
    rw [buildProxyConfig, folded]
    rfl
  rw [built]
  unfold effectiveProxy ProxyConfig.resolve ProxyConfig.bypasses
  rw [noBypass, proxies isHttps]
  cases own : lastProxyFor isHttps (afterNoProxy calls) with
  | some proxy => simp [stored, overridden, ProxyOptions.inForce]
  | none =>
    rw [sessionProxy_eq config isHttps (by rw [proxies, own]; rfl), proxies]
    cases lastProxyFor (!isHttps) (afterNoProxy calls) <;>
      simp [stored, overridden, ProxyOptions.inForce, openSession]

/-- The calls lead to the requested action: a proxy for the scheme was added after
the last `no_proxy`, or the last one before has no credentials and the URL of the
other scheme's proxy. -/
def LeadsToRequested (calls : List ProxyCall) (isHttps : Bool) : Prop :=
  (lastProxyFor isHttps (afterNoProxy calls)).isSome = true ∨
    ∃ requested other, lastProxyFor isHttps calls = some requested ∧
      lastProxyFor (!isHttps) (afterNoProxy calls) = some other ∧
      requested.creds = none ∧ requested.url = other.url

theorem effectiveProxy_eq_requested_iff (environment : ProcessEnvironment)
    {calls : List ProxyCall} (disabled : .noProxy ∈ calls) (host : String)
    (isHttps : Bool) :
    effectiveProxy (buildProxyConfig environment calls) host isHttps =
        requestedProxy calls isHttps ↔
      LeadsToRequested calls isHttps := by
  rw [effectiveProxy_of_noProxy environment disabled]
  unfold requestedProxy LeadsToRequested
  cases own : lastProxyFor isHttps (afterNoProxy calls) with
  | some proxy => simp [lastProxyFor_of_afterNoProxy own]
  | none =>
    cases lastProxyFor (!isHttps) (afterNoProxy calls) <;>
      cases lastProxyFor isHttps calls <;> simp [eq_comm, and_comm]

/-- In every run of a client on whose builder `no_proxy` was called, an action in
force at a send is the requested one exactly when the calls lead to it. -/
theorem sent_requested_iff (environment : ProcessEnvironment)
    (calls : List ProxyCall) (disabled : .noProxy ∈ calls)
    (parse : String → Option Url) (parts : RequestParts)
    (built : parts.proxyConfig = buildProxyConfig environment calls)
    (result : Except Error RawResponse) (last : RequestWorld)
    (runs : Runs winHttp (executeRequest parse parts)
      (.initial parts (sessionProxy parts.proxyConfig)) result last)
    (action : ProxyAction) (sent : action ∈ last.sent) :
    action = requestedProxy calls parts.url.isHttps ↔
      LeadsToRequested calls parts.url.isHttps := by
  rw [sent_effectiveProxy runs sent, built]
  exact effectiveProxy_eq_requested_iff environment disabled _ _

theorem sent_requested_iff_addedAfter :
    let proxy : Proxy := { kind := .all, url := "http://p:8080", creds := none }
    let config := buildProxyConfig (fun _ => none) [.noProxy, .proxy proxy]
    ∃ result last,
      Runs winHttp (executeRequest (fun _ => none) (bareParts config false))
        (.initial (bareParts config false) (sessionProxy config)) result last ∧
      .named "http://p:8080" none ∈ last.sent ∧
      .named "http://p:8080" none =
        requestedProxy [.noProxy, .proxy proxy] false := by
  intro proxy config
  obtain ⟨result, last, runs, sent⟩ :=
    exists_sent (fun _ => none) (bareParts config false) rfl rfl
  have member : .named "http://p:8080" none ∈ last.sent := by
    rw [sent]
    decide
  exact ⟨result, last, runs, member,
    (sent_requested_iff (fun _ => none) [.noProxy, .proxy proxy] (by decide) _ _ rfl
      _ _ runs _ member).mpr (.inl rfl)⟩

/-- After a proxy and `no_proxy`, a request is left to detection, where the proxy
was asked for. -/
theorem sent_automatic :
    let proxy : Proxy := { kind := .all, url := "http://p:8080", creds := none }
    let config := buildProxyConfig (fun _ => none) [.proxy proxy, .noProxy]
    ∃ result last,
      Runs winHttp (executeRequest (fun _ => none) (bareParts config false))
        (.initial (bareParts config false) (sessionProxy config)) result last ∧
      last.sent = [.automatic] ∧
      requestedProxy [.proxy proxy, .noProxy] false = .named "http://p:8080" none := by
  intro proxy config
  obtain ⟨result, last, runs, sent⟩ :=
    exists_sent (fun _ => none) (bareParts config false) rfl rfl
  exact ⟨result, last, runs, sent.trans (by decide), by decide⟩

end Wrest.EffectiveProxy
