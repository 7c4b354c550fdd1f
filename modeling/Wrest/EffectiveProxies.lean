import Wrest.RequestCallUse
import Wrest.RequestProgress

/-!
# The proxy in force when a request is sent

The session of a client carries one proxy, and each request may override it with
the action that the configuration resolves for its URL.  The action `automatic`
overrides nothing, so a request whose scheme has no proxy of its own is sent
through the proxy of the session, which may be the one of the other scheme.
-/

namespace Wrest.EffectiveProxy

open Interaction RequestStep

structure ProxyOptions where
  session : ProxyAction
  override : Option ProxyAction
  credentials : Option ProxyCredentials

def ProxyOptions.inForce (options : ProxyOptions) : ProxyAction :=
  match options.override.getD options.session with
  | .named url _ => .named url options.credentials
  | other => other

def proxyOptions (world : RequestWorld) : ProxyOptions where
  session := world.sessionProxy
  override := world.requestProxy
  credentials := world.proxyCredentials

/-- The options that the override for an action leaves. -/
def overridden (session : ProxyAction) : ProxyAction → ProxyOptions
  | .direct => { session, override := some .direct, credentials := none }
  | .named url creds =>
    { session, override := some (.named url none), credentials := creds }
  | .automatic => { session, override := none, credentials := none }

/-- The action with which a client sends a request to a host. -/
def effectiveProxy (config : ProxyConfig) (host : String) (isHttps : Bool) :
    ProxyAction :=
  (overridden (openSession (sessionProxy config))
    (config.resolve host isHttps)).inForce

theorem interfere_proxies {world next : RequestWorld} {event : CallbackStep}
    (happens : world.interfere event = some next) :
    proxyOptions next = proxyOptions world ∧ next.sent = world.sent := by
  cases event with
  | completes event | secureFailure flags | closes =>
    simp only [RequestWorld.interfere, Option.ite_none_right_eq_some,
      Option.some.injEq] at happens
    obtain ⟨-, rfl⟩ := happens
    exact ⟨rfl, rfl⟩
  | redirects callback =>
    simp only [RequestWorld.interfere, Option.ite_none_right_eq_some,
      Option.some.injEq] at happens
    obtain ⟨-, rfl⟩ := happens
    unfold RequestWorld.redirect
    dsimp only
    split <;> exact ⟨rfl, rfl⟩

theorem stable_of_proxies (property : ProxyOptions → List ProxyAction → Prop) :
    winHttp.Stable fun world => property (proxyOptions world) world.sent := by
  intro world event next holds happens
  obtain ⟨optionsEq, sentEq⟩ := interfere_proxies happens
  rw [optionsEq, sentEq]
  exact holds

/-- A call that sets no proxy keeps the proxies, and if it is a send, it records
the action in force. -/
theorem answers_keepsProxy {call : RequestCall} (keeps : call.KeepsProxy)
    {world next : RequestWorld} {reply : call.Reply}
    (answers : world.Answers call reply next) :
    proxyOptions next = proxyOptions world ∧
      (next.sent = world.sent ∨
        next.sent = world.sent ++ [world.proxyInForce] ∧ call.configures = false) := by
  cases call with
  | setProxyDirect | setProxyNamed _ | setProxyCredentials _ _ => cases keeps
  | connect _ _ | openRequest _ _ _ =>
    cases answers
    exact ⟨rfl, .inl rfl⟩
  | setContextValue | setNoClientCert | setSecurityFlags _ | writeData _ _
  | receiveResponse | queryStatusCode | queryRawHeaders =>
    unfold RequestWorld.Answers at answers
    rcases RequestWorld.Acts.cases answers with rfl | ⟨-, rfl⟩ <;>
      exact ⟨rfl, .inl rfl⟩
  | sendRequest _ _ _ =>
    unfold RequestWorld.Answers at answers
    rcases RequestWorld.Acts.cases answers with rfl | ⟨-, rfl⟩
    · exact ⟨rfl, .inl rfl⟩
    · exact ⟨rfl, .inr ⟨rfl, rfl⟩⟩
  | addRequestHeaders line =>
    cases reply with
    | error code =>
      obtain rfl : next = world := answers
      exact ⟨rfl, .inl rfl⟩
    | ok value =>
      obtain ⟨-, headers, -, rfl⟩ := answers
      exact ⟨rfl, .inl rfl⟩
  | storeSendBody _ | listen | poll _ | takeAbortReason | isAborted
  | tlsFailureFlags | queryUrl | queryProtocolUsed | queryVersion =>
    obtain ⟨-, rfl⟩ := answers
    exact ⟨rfl, .inl rfl⟩
  | takeSendBody =>
    obtain rfl := answers
    exact ⟨rfl, .inl rfl⟩

/-- Nothing was sent, and the options are as given. -/
def Configured (options : ProxyOptions) (world : RequestWorld) : Prop :=
  proxyOptions world = options ∧ world.sent = []

def SentOnly (action : ProxyAction) (world : RequestWorld) : Prop :=
  ∀ sent ∈ world.sent, sent = action

/-- Moreover, that action is in force. -/
def SendsOnly (action : ProxyAction) (world : RequestWorld) : Prop :=
  (proxyOptions world).inForce = action ∧ SentOnly action world

theorem configured_stable (options : ProxyOptions) :
    winHttp.Stable (Configured options) :=
  stable_of_proxies fun current sent => current = options ∧ sent = []

theorem sentOnly_stable (action : ProxyAction) : winHttp.Stable (SentOnly action) :=
  stable_of_proxies fun _ sent => ∀ one ∈ sent, one = action

theorem sendsOnly_stable (action : ProxyAction) : winHttp.Stable (SendsOnly action) :=
  stable_of_proxies fun current sent =>
    current.inForce = action ∧ ∀ one ∈ sent, one = action

theorem sentOnly_of_configured {options : ProxyOptions} (action : ProxyAction)
    {world : RequestWorld} (configured : Configured options world) :
    SentOnly action world := by
  intro sent member
  rw [configured.2] at member
  cases member

section Phases

variable {α : Type} {url : Url} {action : ProxyAction} {options : ProxyOptions}

theorem configured_of_makes {step : RequestStep α}
    (makes : step.Makes RequestCall.ConfiguresOther) :
    Triple winHttp (Configured options) step (fun _ => Configured options)
      (fun _ => SentOnly action) := by
  refine (makes.triple (configured_stable options) ?_).mono (fun _ _ holds => holds)
    fun _ _ => sentOnly_of_configured action
  intro world call reply next ⟨configures, keeps⟩ configured answers
  obtain ⟨optionsEq, sentEq | ⟨-, sends⟩⟩ := answers_keepsProxy keeps answers
  · exact ⟨optionsEq.trans configured.1, sentEq.trans configured.2⟩
  · rw [configures] at sends
    cases sends

theorem sendsOnly_of_makes {step : RequestStep α}
    (makes : step.Makes RequestCall.KeepsProxy) :
    Triple winHttp (SendsOnly action) step (fun _ => SendsOnly action)
      (fun _ => SentOnly action) := by
  refine (makes.triple (sendsOnly_stable action) ?_).mono (fun _ _ holds => holds)
    fun _ _ => And.right
  intro world call reply next keeps ⟨inForce, sentOnly⟩ answers
  obtain ⟨optionsEq, sent⟩ := answers_keepsProxy keeps answers
  refine ⟨optionsEq ▸ inForce, fun one member => ?_⟩
  rcases sent with sentEq | ⟨sentEq, -⟩
  · rw [sentEq] at member
    exact sentOnly one member
  · rw [sentEq] at member
    rcases List.mem_append.mp member with before | last
    · exact sentOnly one before
    · rw [List.mem_singleton.mp last]
      exact inForce

theorem setOption_configured {call : RequestCall} {check : call.Reply → Outcome}
    (effect : RequestWorld → RequestWorld) (change : ProxyOptions → ProxyOptions)
    (acts : ∀ (world : RequestWorld) reply next, world.Answers call reply next →
      world.Acts effect (check reply) next)
    (changes : ∀ world, proxyOptions (effect world) = change (proxyOptions world) ∧
      (effect world).sent = world.sent) :
    Triple winHttp (Configured options) (do checkWin32 url (check (← ask call)))
      (fun _ => Configured (change options)) (fun _ => SentOnly action) := by
  refine triple_checked (configured_stable options)
    (fun world reply value next configured answers outcome => ?_)
    (fun world reply code next configured answers outcome => ?_)
    (fun _ => configured_stable _) fun _ => sentOnly_stable action
  · have acted := acts world reply next answers
    rw [outcome] at acted
    obtain ⟨-, rfl⟩ := acted
    obtain ⟨optionsEq, sentEq⟩ := changes world
    exact ⟨by rw [optionsEq, configured.1], sentEq.trans configured.2⟩
  · have acted := acts world reply next answers
    rw [outcome] at acted
    obtain rfl : next = world := acted
    exact sentOnly_of_configured action configured

theorem setProxy_configured (session override : ProxyAction) :
    Triple winHttp (Configured { session, override := none, credentials := none })
      (setProxy url override) (fun _ => Configured (overridden session override))
      (fun _ => SentOnly action) := by
  cases override with
  | automatic => exact Triple.pure (configured_stable _) fun _ holds => holds
  | direct =>
    exact setOption_configured
      (fun world => { world with requestProxy := some .direct })
      (fun options => { options with override := some .direct })
      (fun _ _ _ answers => answers) fun _ => ⟨rfl, rfl⟩
  | named proxyUrl creds =>
    have named : Triple winHttp
        (Configured { session, override := none, credentials := none })
        (do checkWin32 url (← ask (.setProxyNamed proxyUrl)))
        (fun _ => Configured (overridden session (.named proxyUrl none)))
        (fun _ => SentOnly action) :=
      setOption_configured
        (fun world => { world with requestProxy := some (.named proxyUrl none) })
        (fun options => { options with override := some (.named proxyUrl none) })
        (fun _ _ _ answers => answers) fun _ => ⟨rfl, rfl⟩
    refine named.bind (fun _ => ?_) fun _ => sentOnly_stable action
    cases creds with
    | none => exact Triple.pure (configured_stable _) fun _ holds => holds
    | some credentials =>
      exact setOption_configured
        (fun world => { world with proxyCredentials := some credentials })
        (fun options => { options with credentials := some credentials })
        (fun _ _ _ answers => answers) fun _ => ⟨rfl, rfl⟩

end Phases

theorem configureRequest_configured (parts : RequestParts) (session action : ProxyAction) :
    Triple winHttp (Configured { session, override := none, credentials := none })
      (configureRequest parts)
      (fun _ => Configured (overridden session
        (parts.proxyConfig.resolve parts.url.host parts.url.isHttps)))
      (fun _ => SentOnly action) := by
  have fails : ∀ _ : Error, winHttp.Stable (SentOnly action) :=
    fun _ => sentOnly_stable action
  unfold configureRequest
  refine (configured_of_makes (openHandle_makes parts)).bind (fun body => ?_) fails
  refine (setProxy_configured session _).bind (fun _ => ?_) fails
  refine (configured_of_makes (setCertificateOptions_makes
    RequestCall.configuresOther_of_setsCertificates parts)).bind
    (fun _ => ?_) fails
  exact Triple.pure (configured_stable _) fun _ holds => holds

theorem prepareRequest_sendsOnly (parts : RequestParts) :
    let action := effectiveProxy parts.proxyConfig parts.url.host parts.url.isHttps
    Triple winHttp
      (Configured
        { session := openSession (sessionProxy parts.proxyConfig)
          override := none
          credentials := none })
      (prepareRequest parts) (fun _ => SendsOnly action)
      (fun _ => SentOnly action) := by
  intro action
  have fails : ∀ _ : Error, winHttp.Stable (SentOnly action) :=
    fun _ => sentOnly_stable action
  unfold prepareRequest
  refine (configureRequest_configured parts _ action).bind (fun body => ?_) fails
  refine ((sendsOnly_of_makes (addHeaders_makes (fun _ => rfl)
    parts.headers)).weaken ?_).bind
    (fun _ => Triple.pure (sendsOnly_stable action) fun _ holds => holds) fails
  intro world configured
  exact ⟨by rw [configured.1]; rfl, sentOnly_of_configured action configured⟩

theorem executeRequest_sentOnly (parse : String → Option Url) (parts : RequestParts) :
    let action := effectiveProxy parts.proxyConfig parts.url.host parts.url.isHttps
    Triple winHttp
      (Configured
        { session := openSession (sessionProxy parts.proxyConfig)
          override := none
          credentials := none })
      (executeRequest parse parts) (fun _ => SentOnly action)
      (fun _ => SentOnly action) := by
  intro action
  have fails : ∀ _ : Error, winHttp.Stable (SentOnly action) :=
    fun _ => sentOnly_stable action
  unfold executeRequest
  refine (prepareRequest_sendsOnly parts).bind (fun body => ?_) fails
  have transfers := RequestCall.keepsProxy_of_transfers
  have sends := RequestCall.keepsProxy_of_sends
  refine (sendsOnly_of_makes (sendBody_makes transfers sends body _)).bind
    (fun retry => ?_) fails
  refine (sendsOnly_of_makes (receiveResponse_makes transfers sends retry)).bind
    (fun _ => ?_) fails
  have queries := allowed_of_narrower RequestCall.receives_of_queries
    (allowed_of_narrower RequestCall.transfers_of_receives transfers)
  exact (sendsOnly_of_makes (queryResponse_makes queries)).mono (fun _ _ => And.right)
    fun _ _ holds => holds

/-- In every run, every send goes through the effective proxy of the target. -/
theorem sent_effectiveProxy {parse : String → Option Url} {parts : RequestParts}
    {result : Except Error RawResponse} {last : RequestWorld}
    (runs : Runs winHttp (executeRequest parse parts)
      (.initial parts (sessionProxy parts.proxyConfig)) result last)
    {action : ProxyAction} (sent : action ∈ last.sent) :
    action = effectiveProxy parts.proxyConfig parts.url.host parts.url.isHttps := by
  have ends := executeRequest_sentOnly parse parts
    (.initial parts (sessionProxy parts.proxyConfig)) ⟨rfl, rfl⟩ result last runs
  cases result with
  | ok response => exact ends action sent
  | error error => exact ends action sent

/-- The host is bypassed, the scheme has a proxy of its own, or the other scheme
has none either. -/
def ResolvesAlone (config : ProxyConfig) (host : String) (isHttps : Bool) : Prop :=
  config.bypasses host = true ∨ (config.proxyFor isHttps).1.isSome = true ∨
    (config.proxyFor !isHttps).1 = none

theorem sessionProxy_eq (config : ProxyConfig) (isHttps : Bool)
    (absent : (config.proxyFor isHttps).1 = none) :
    sessionProxy config =
      match (config.proxyFor !isHttps).1 with
      | some url => .named url none
      | none => .automatic := by
  cases isHttps with
  | false =>
    have noHttp : config.httpProxyUrl = none := absent
    cases https : config.httpsProxyUrl <;>
      simp [sessionProxy, ProxyConfig.proxyFor, noHttp, https]
  | true =>
    have noHttps : config.httpsProxyUrl = none := absent
    cases http : config.httpProxyUrl <;>
      simp [sessionProxy, ProxyConfig.proxyFor, noHttps, http]

theorem effectiveProxy_eq_resolve_iff (config : ProxyConfig) (host : String)
    (isHttps : Bool) :
    effectiveProxy config host isHttps = config.resolve host isHttps ↔
      ResolvesAlone config host isHttps := by
  unfold effectiveProxy ProxyConfig.resolve ResolvesAlone
  cases config.bypasses host with
  | true => simp [overridden, ProxyOptions.inForce]
  | false =>
    rcases own : config.proxyFor isHttps with ⟨_ | url, creds⟩
    · rw [sessionProxy_eq config isHttps (by rw [own])]
      cases (config.proxyFor !isHttps).1 <;>
        simp [overridden, ProxyOptions.inForce, openSession]
    · simp [overridden, ProxyOptions.inForce]

theorem withProxy_inForce (parts : RequestParts) (session action : ProxyAction) :
    ((RequestWorld.initial parts session).withProxy action).proxyInForce =
      (overridden (openSession session) action).inForce := by
  cases action with
  | direct | automatic => rfl
  | named url creds => cases creds <;> rfl

theorem exists_sent (parse : String → Option Url) (parts : RequestParts)
    (bodyless : parts.body = none) (headerless : parts.headers = []) :
    ∃ result last,
      Runs winHttp (executeRequest parse parts)
        (.initial parts (sessionProxy parts.proxyConfig)) result last ∧
      last.sent =
        [effectiveProxy parts.proxyConfig parts.url.host parts.url.isHttps] := by
  obtain ⟨result, last, runs, sent⟩ :=
    executeRequest_runs parse (sessionProxy parts.proxyConfig) bodyless headerless
  exact ⟨result, last, runs, by rw [sent, withProxy_inForce]; rfl⟩

/-- In every run of a client with any configuration, an action in force at a send
is the resolved one exactly when the configuration resolves the target alone. -/
theorem sent_resolves_iff (parse : String → Option Url) (parts : RequestParts)
    (result : Except Error RawResponse) (last : RequestWorld)
    (runs : Runs winHttp (executeRequest parse parts)
      (.initial parts (sessionProxy parts.proxyConfig)) result last)
    (action : ProxyAction) (sent : action ∈ last.sent) :
    action = parts.proxyConfig.resolve parts.url.host parts.url.isHttps ↔
      ResolvesAlone parts.proxyConfig parts.url.host parts.url.isHttps := by
  rw [sent_effectiveProxy runs sent]
  exact effectiveProxy_eq_resolve_iff _ _ _

/-- A proxy for each scheme. -/
def schemeProxies : ProxyConfig :=
  buildProxyConfig (fun _ => none)
    [.proxy { kind := .http, url := "http://p:8080", creds := none },
      .proxy { kind := .https, url := "http://q:8080", creds := none }]

theorem sent_resolves_iff_schemes :
    ∃ result last,
      Runs winHttp (executeRequest (fun _ => none) (bareParts schemeProxies true))
        (.initial (bareParts schemeProxies true) (sessionProxy schemeProxies)) result last ∧
      ProxyAction.named "http://q:8080" none ∈ RequestWorld.sent last ∧
        ProxyAction.named "http://q:8080" none = schemeProxies.resolve "a" true := by
  obtain ⟨result, last, runs, sent⟩ :=
    exists_sent (fun _ => none) (bareParts schemeProxies true) rfl rfl
  have member : ProxyAction.named "http://q:8080" none ∈ last.sent := by
    rw [sent]
    exact List.mem_singleton.mpr (by decide)
  exact ⟨result, last, runs, member,
    (sent_resolves_iff _ _ _ _ runs _ member).mpr (.inr (.inl rfl))⟩

/-- A client with a proxy for plain HTTP only sends to an HTTPS target through
that proxy, where the configuration resolves to detection. -/
theorem sent_throughOtherScheme :
    let proxy : Proxy := { kind := .http, url := "http://p:8080", creds := none }
    let config := buildProxyConfig (fun _ => none) [.proxy proxy]
    ∃ result last,
      Runs winHttp (executeRequest (fun _ => none) (bareParts config true))
        (.initial (bareParts config true) (sessionProxy config)) result last ∧
      last.sent = [.named "http://p:8080" none] ∧
      config.resolve "a" true = .automatic := by
  intro proxy config
  obtain ⟨result, last, runs, sent⟩ :=
    exists_sent (fun _ => none) (bareParts config true) rfl rfl
  exact ⟨result, last, runs, sent.trans (by decide), by decide⟩

end Wrest.EffectiveProxy
