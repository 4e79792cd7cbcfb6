import McpBridge.AdaptiveTimeouts
import McpBridge.BackendCalls
import McpBridge.CircuitCalls
import McpBridge.ConnectionAccounts
import McpBridge.ConnectionCounts
import McpBridge.ConnectionStates
import McpBridge.ConsulDiscovery
import McpBridge.DirectRetries
import McpBridge.EncryptedStores
import McpBridge.EndpointClients
import McpBridge.ErrorIds
import McpBridge.FrontendChannels
import McpBridge.HealthStatus
import McpBridge.InFlight
import McpBridge.LimiterFallback
import McpBridge.MessageAuth
import McpBridge.Namespaces
import McpBridge.Notifications
import McpBridge.OAuthTokens
import McpBridge.PoolSwitches
import McpBridge.ProtocolDetection
import McpBridge.QueuedOnce
import McpBridge.ReadDeadlines
import McpBridge.Receivers
import McpBridge.RequestBodies
import McpBridge.RequestQueues
import McpBridge.RouterClosings
import McpBridge.SessionRecords
import McpBridge.SessionStores
import McpBridge.Shutdown
import McpBridge.SlidingWindows
import McpBridge.SseDelivery
import McpBridge.SseIsolation
import McpBridge.SseLifetimes
import McpBridge.SsePanics
import McpBridge.SseRegistry
import McpBridge.StdinEnd
import McpBridge.StdinFraming
import McpBridge.StdioCorrelation
import McpBridge.StdioRequests
import McpBridge.TcpRequests
import McpBridge.TcpStreams
import McpBridge.TokenBuckets
