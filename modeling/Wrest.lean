import Wrest.TransitionRuns
import Wrest.InteractionPrograms
import Wrest.SourceStrings
import Wrest.RequestUrls
import Wrest.ProxyConfiguration
import Wrest.RequestErrors
import Wrest.CompletionSignals
import Wrest.RequestStates
import Wrest.RequestHandleClose
import Wrest.SlotRings
import Wrest.RetryBudget
import Wrest.RetryBudgetWindow
import Wrest.RequestBodies
import Wrest.RetryExecution
import Wrest.HeaderMaps
import Wrest.ResponseHeaders
import Wrest.WireHeaders
import Wrest.RedirectOrigins
import Wrest.RequestCalls
import Wrest.RequestExecution
import Wrest.RequestWorlds
import Wrest.WireHeaderLists
import Wrest.RequestCallUse
import Wrest.RequestProgress
import Wrest.RequestHeaderLoop
import Wrest.EffectiveProxies
import Wrest.DisabledProxies
import Wrest.AbortTracking
import Wrest.AbortReasons
import Wrest.ResponseChunks
import Wrest.ResponseChunkInvariant
import Wrest.ConditionVariables
import Wrest.RequestDrainWaits
import Wrest.RetryBudgetLoad
import Wrest.ChunkedCoding
import Wrest.BodyTransfers
import Wrest.StreamedBodies
import Wrest.FramingHeaders
import Wrest.Base64Encodings
import Wrest.PercentEncodings
import Wrest.FormEncodings
import Wrest.HeaderMapValues
import Wrest.RequestBuilders
import Wrest.BuiltHeaders
import Wrest.ClientRequests
import Wrest.RequestBuilderCalls
import Wrest.FormSerialization
import Wrest.RebuiltRequests
import Wrest.ContentTypes
import Wrest.CallbackContexts
import Wrest.UriEncodings
import Wrest.IpAddresses
import Wrest.UriReferences
import Wrest.UriResolution
import Wrest.UrlParsing
import Wrest.UrlHosts
import Wrest.UrlRoundTrips
import Wrest.UrlJoins
import Wrest.UrlOrders
import Wrest.UserinfoCredentials
import Wrest.QueryParameters
import Wrest.Utf8Decoders
import Wrest.Utf16Decoders
import Wrest.CharsetLabels
import Wrest.BodyDecoding
import Wrest.FormRoundTrips
import Wrest.InteractionTraces
import Wrest.TraceGuarantees
import Wrest.RequestTraces
import Wrest.BufferWrites
import Wrest.InMemoryBodies
import Wrest.ClientCertificateReplays
import Wrest.DelimitedLists
import Wrest.ProxyBypasses
import Wrest.AwaitedCompletions
import Wrest.HeaderBlocks
import Wrest.RetryBudgetLifetimes
import Wrest.RetryBudgetRotations
import Wrest.ResponseBodies
import Wrest.BodyReaders
import Wrest.RequestDeadlines
import Wrest.LittleEndians
import Wrest.DueTimes
import Wrest.DelayTimers
import Wrest.DelayOutcomes
import Wrest.SignalInterleavings
import Wrest.Utf16Strings
import Wrest.WideStrings
import Wrest.WideQueries
import Wrest.ResourceProtocols
import Wrest.IcuCalls
import Wrest.IcuProtocols
import Wrest.IcuResults
import Wrest.LastWrites
import Wrest.RetryPolicies
import Wrest.ClientBuilders
import Wrest.SessionOpening
import Wrest.SecureRedirects
import Wrest.CallbackDispatches
import Wrest.CallbackSafety
import Wrest.CallbackReports
import Wrest.InterfaceSums
import Wrest.PipedResponses
import Wrest.RequestProtocols
import Wrest.RequestHandleUse
import Wrest.ResponseTexts
import Wrest.ObservedTraces
import Wrest.UserinfoSecrecy
import Wrest.HttpConversions
import Wrest.ResponseUse
