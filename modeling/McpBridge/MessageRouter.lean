import Mathlib.Algebra.Ring.Int.Defs
import Mathlib.Data.List.Infix
import McpBridge.Pending
import McpBridge.Runs
import McpBridge.Values

/-!
`MessageRouter` of the router service: requests from stdin go to a direct server or to the gateway, and are answered on
stdout. The goroutines share the map `pendingReqs` from identifiers to response channels.
-/
namespace McpBridge.MessageRouter
open Values Channels Pending Runs Function

/-- `direct.FallbackConfig`. Its timeout and delay set timers, which the labels let fire. -/
structure FallbackConfig where
  enabled : Bool := false
  maxRetries : Int := 0
  directOnlyMethods : List String := []
  gatewayOnlyMethods : List String := []

structure DirectConfig where
  enabled : Bool := false
  maxConnections : Int := 0
  fallback : FallbackConfig := {}

structure Config where
  directManager : Bool := false
  direct : DirectConfig := {}
  /-- `GetRequestTimeout()` as `%v` prints it. -/
  requestTimeout : String := "30s"
  maxQueuedRequests : Int := 0

namespace Config

def isDirectMode (cfg : Config) : Bool := cfg.direct.enabled && decide (0 < cfg.direct.maxConnections)

/-- The queue size that `NewMessageRouter` chooses. -/
def queueSize (cfg : Config) : Nat := if 0 < cfg.maxQueuedRequests then cfg.maxQueuedRequests.toNat else 100

end Config

/-- `DefaultChannelBufferSize`: the capacity of `stdoutChan`. -/
def defaultChannelBufferSize : Nat := 1000

/-- Whether a request is sent to a direct server. -/
def determineRoutingTarget (cfg : Config) (req : Request) : Bool :=
  if !cfg.directManager then false
  else if req.method ∈ cfg.direct.fallback.gatewayOnlyMethods then false
  else if req.method ∈ cfg.direct.fallback.directOnlyMethods then true
  else if cfg.isDirectMode then
    if req.method ∈ ["initialize","initialized"] then false
    else if req.method ∈ ["tools/list","tools/call","resources/list","resources/read","prompts/list","prompts/get"] then
      true
    else cfg.direct.fallback.enabled
  else false

def contains (text pattern : String) : Bool := decide (pattern.toList <:+: text.toList)

def toLower (c : Char) : Char :=
  if c = Char.ofNat 0x130 then 'i' else if c = Char.ofNat 0x212a then 'k' else c.toLower

def retryablePatterns : List String :=
  ["connection refused","connection timeout","connection reset","no such host","network unreachable",
   "host unreachable","timeout","context deadline exceeded","failed to detect protocol","failed to get direct client",
   "protocol detection failed","no route to host","connection aborted"]

def isRetryableDirectError (err : String) : Bool :=
  retryablePatterns.any (contains (String.ofList (err.toList.map toLower))) ||
    contains err "direct" || contains err "connect" || contains err "dial"

/-! ### What the goroutines share -/

/-- One stdin message: no JSON, with the parser's error, or the encoding of a value. -/
inductive Data where
  | malformed (cause : String)
  | json (value : Any)

def Data.decode : Data → Except String Request
  | .malformed cause => .error cause
  | .json value => decodeRequest .plain value

/-- `extractRequestID`. -/
def Data.id : Data → Any
  | .malformed _ => .null
  | .json value => extractRequestID value

/-- A stdin message that is a request, with its number in the order of reading. -/
structure Job where
  index : Nat
  data : Data
  request : Request

/-- A message on stdout and the stdin message it is for; `none` is a `nil` response, printed as `null`. -/
structure Line where
  index : Nat
  response : Option Response

inductive Crash where
  | unhashable
  | channel (panic : Panic)
  deriving DecidableEq, Repr

/-- What a goroutine of `processGatewayRequest` does once its `cleanup` has run. -/
inductive GatewayAfter where
  | report (message : String)
  | timedOut
  | quit

inductive GatewayPc where
  | send
  | wait
  | deliver (response : Option Response)
  | cleanup (after : GatewayAfter)
  | close (channel : Nat) (after : GatewayAfter)
  /-- After the cleanup of a timeout: `select` on `mr.ctx.Done()`. -/
  | timedOut
  | report (message : String)
  | done

structure Goroutine where
  job : Job
  pc : GatewayPc

structure Router where
  pendingReqs : Table Key Response := {}
  /-- The goroutines of `processGatewayRequest`, named by their response channels. -/
  goroutines : Nat → Option Goroutine := fun _ => none
  lines : List Line := []
  buffered : Nat := 0
  received : List Response := []
  cancelled : Bool := false
  panic : Option Crash := none

namespace Router

def crash (r : Router) (cause : Crash) : Router := { r with panic := some cause }

/-- `stdoutChan` takes a message without blocking. -/
def room (r : Router) : Bool := decide (r.buffered < defaultChannelBufferSize)

def write (index : Nat) (response : Option Response) (r : Router) : Router :=
  { r with lines := ⟨index,response⟩ :: r.lines, buffered := r.buffered + 1 }

/-- `pendingReqs.Store(id, make(chan *mcp.Response, 1))`. -/
def store (id : Any) (r : Router) : Router :=
  match id.key? with
  | none => r.crash .unhashable
  | some k => { r with pendingReqs := r.pendingReqs.store k }

/-- The channel that `pendingReqs.LoadAndDelete(id)` yields. -/
def load (id : Any) (r : Router) : Option Nat := id.key?.bind r.pendingReqs.entries

/-- What `pendingReqs.LoadAndDelete(id)` does to the map. -/
def delete (id : Any) (r : Router) : Router :=
  match id.key? with
  | none => r.crash .unhashable
  | some k => { r with pendingReqs := r.pendingReqs.delete k }

def close (c : Nat) (r : Router) : Router :=
  match r.pendingReqs.close c with
  | .error panic => r.crash (.channel panic)
  | .ok table => { r with pendingReqs := table }

def offer (c : Nat) (response : Response) (r : Router) : Router :=
  match r.pendingReqs.offer c response with
  | .error panic => r.crash (.channel panic)
  | .ok table => { r with pendingReqs := table }

def setPc (c : Nat) (g : Goroutine) (pc : GatewayPc) (r : Router) : Router :=
  { r with goroutines := update r.goroutines c (some { g with pc := pc }) }

/-- `processGatewayRequest`: the channel is stored and a goroutine does the rest, without an error. -/
def processGatewayRequest (job : Job) (r : Router) : Router :=
  match job.request.id.key? with
  | none => r.crash .unhashable
  | some k =>
    { r with
      pendingReqs := r.pendingReqs.store k
      goroutines := update r.goroutines r.pendingReqs.fresh (some ⟨job,.send⟩) }

end Router

/-! ### The direct path -/

/-- Who makes a direct request: `processDirectRequest`, or `attemptDirectWithRetries` by
    `processDirectRequestWithContext`. -/
inductive Mode where
  | single
  | attempt (n : Int)

/-- What follows the cleanup of a direct request. -/
inductive DirectAfter where
  | respond (response : Response)
  | finish (err : Option String)

inductive Stage where
  | setup (mode : Mode)
  | request (mode : Mode)
  | respond (mode : Mode) (response : Response)
  | cleanup (mode : Mode) (after : DirectAfter)
  | close (mode : Mode) (channel : Nat) (after : DirectAfter)
  | delay (attempt : Int)
  | gateway

inductive Progress where
  | inside (stage : Stage)
  | returned (err : Option String)

inductive DirectOutcome where
  | noClient (cause : String)
  | failed (cause : String)
  | response (response : Response)

/-- `attempt++` of an `int`. -/
def increment (n : Int) : Int := if n = 2 ^ 63 - 1 then -2 ^ 63 else n + 1

/-- `attemptDirectWithRetries` after an attempt; an error that ends the loop leads to `handleFallbackToGateway`. -/
def attemptDirectWithRetries (cfg : Config) (n : Int) : Option String → Progress
  | none => .returned none
  | some err =>
    if !isRetryableDirectError err then .inside .gateway
    else if increment n ≤ cfg.direct.fallback.maxRetries then .inside (.delay (increment n))
    else .inside .gateway

def finish (cfg : Config) : Mode → Option String → Progress
  | .single, err => .returned err
  | .attempt n, err => attemptDirectWithRetries cfg n err

def afterCleanup (cfg : Config) (mode : Mode) : DirectAfter → Progress
  | .respond response => .inside (.respond mode response)
  | .finish err => finish cfg mode err

/-- After `sendResponse`: an attempt has its deferred cleanup left. -/
def afterRespond : Mode → Option String → Progress
  | .single, err => .returned err
  | .attempt n, err => .inside (.cleanup (.attempt n) (.finish err))

/-- `processRequestWithFallback`; a loop without an attempt returns a `nil` error. -/
def processRequestWithFallback (cfg : Config) : Progress :=
  if !cfg.direct.fallback.enabled then .inside (.setup .single)
  else if 0 ≤ cfg.direct.fallback.maxRetries then .inside (.setup (.attempt 0))
  else .returned none

def processStdinMessageDirect (cfg : Config) (req : Request) : Progress :=
  if determineRoutingTarget cfg req then processRequestWithFallback cfg else .inside .gateway

/-- How `processStdinMessageDirect` moves on: by itself, by the direct call's outcome, a retry's delay, or
    cancellation. -/
inductive Move where
  | go
  | answer (outcome : DirectOutcome)
  | timer
  | cancelled

def afterAnswer : Mode → DirectOutcome → Progress
  | mode,.noClient cause => .inside (.cleanup mode (.finish (some ("failed to get direct client: " ++ cause))))
  | mode,.failed cause => .inside (.cleanup mode (.finish (some ("failed to send direct request: " ++ cause))))
  | .single,.response response => .inside (.cleanup .single (.respond response))
  | .attempt n,.response response => .inside (.respond (.attempt n) response)

def Router.answered (r : Router) : DirectOutcome → Router
  | .response response => { r with received := response :: r.received }
  | _ => r

def Stage.step (cfg : Config) (job : Job) (r : Router) : Stage → Move → Option (Progress × Router)
  | .setup mode,.go => some (.inside (.request mode),r.store job.request.id)
  | .request mode,.answer outcome => some (afterAnswer mode outcome,r.answered outcome)
  | .respond mode response,.go =>
    if r.room then some (afterRespond mode none,r.write job.index (some response)) else none
  | .respond mode _,.cancelled => if r.cancelled then some (afterRespond mode (some "context canceled"),r) else none
  | .cleanup mode after,.go =>
    match r.load job.request.id with
    | some c => some (.inside (.close mode c after),r.delete job.request.id)
    | none => some (afterCleanup cfg mode after,r.delete job.request.id)
  | .close mode c after,.go => some (afterCleanup cfg mode after,r.close c)
  | .delay n,.timer => some (.inside (.setup (.attempt n)),r)
  | .delay _,.cancelled => if r.cancelled then some (.inside .gateway,r) else none
  | .gateway,.go => some (.returned none,r.processGatewayRequest job)
  | _,_ => none

/-! ### The goroutines of the gateway path -/

/-- How such a goroutine moves on: `send` with the outcome of `gwClient.SendRequest`, `timeout` by its `select`'s timer. -/
inductive GatewayMove where
  | send (err : Option String)
  | receive
  | timeout
  | cancelled
  | go

def GatewayAfter.pc : GatewayAfter → GatewayPc
  | .report message => .report message
  | .timedOut => .timedOut
  | .quit => .done

def Goroutine.step (cfg : Config) (c : Nat) (g : Goroutine) (r : Router) : GatewayMove → Option (GatewayPc × Router)
  | .send err =>
    match g.pc,err with
    | .send,none => some (.wait,r)
    | .send,some cause => some (.cleanup (.report cause),r)
    | _,_ => none
  | .receive =>
    match g.pc with
    | .wait => (r.pendingReqs.receive c).map fun (response,table) => (.deliver response,{ r with pendingReqs := table })
    | _ => none
  | .timeout =>
    match g.pc with
    | .wait => some (.cleanup .timedOut,r)
    | .deliver _ => some (.cleanup (.report "timeout sending response to stdout after 5s"),r)
    | _ => none
  | .cancelled =>
    if !r.cancelled then none
    else match g.pc with
      | .wait => some (.cleanup .quit,r)
      | .deliver _ => some (.cleanup (.report "context canceled"),r)
      | .report _ => some (.done,r)
      | _ => none
  | .go =>
    match g.pc with
    | .deliver response => if r.room then some (.done,r.write g.job.index response) else none
    | .cleanup after =>
      match r.load g.job.request.id with
      | some d => some (.close d after,r.delete g.job.request.id)
      | none => some (after.pc,r.delete g.job.request.id)
    | .close d after => some (after.pc,r.close d)
    | .timedOut => some (if r.cancelled then .done else .report ("request timeout after " ++ cfg.requestTimeout),r)
    | .report message =>
      if r.room then some (.done,r.write g.job.index (some (errorResponse g.job.request.id message))) else none
    | _ => none

/-! ### The long-lived goroutines -/

inductive Stdin where
  | idle
  | limiting (job : Job)
  | enqueue (job : Job)
  | queued (job : Job)
  | processing (job : Job) (stage : Stage)
  | report (index : Nat) (data : Data) (err : String)
  | exited

/-- Where `handleConnectionStateChanges` and its `processQueuedRequests` stand. -/
inductive Monitor where
  /-- Waiting for a change of state; `lastConnected` says that `lastState` is `StateConnected`. -/
  | idle (lastConnected : Bool)
  | next (rest : List Job)
  | processing (job : Job) (stage : Stage) (rest : List Job)
  /-- About to send the error of a request whose context is over, which may block. -/
  | refuse (job : Job) (rest : List Job)
  | send (job : Job) (err : Option String) (rest : List Job)
  | close (job : Job) (rest : List Job)
  | exited

/-- Where `handleWSToStdout` stands; `routeResponse` takes three steps. -/
inductive Reader where
  | idle
  | routing (response : Response)
  | sending (channel : Nat) (response : Response)
  | closing (channel : Nat)
  | exited

/-- Where `Stop` stands: it removes each entry that `Range` shows it, and closes the channels afterwards. -/
inductive Stop where
  | unstarted
  | ranging (visited : List Key) (channelsToClose : List Nat)
  | shown (key : Key) (channel : Nat) (visited : List Key) (channelsToClose : List Nat)
  | closing (channelsToClose : List Nat)

structure State where
  router : Router := {}
  stdin : Stdin := .idle
  monitor : Monitor := .idle false
  reader : Reader := .idle
  stop : Stop := .unstarted
  connected : Bool := false
  queue : List Job := []
  results : Nat → Slot (Option String) := fun _ => {}
  expired : Nat → Bool := fun _ => false
  inputs : List Data := []

def start (connected : Bool) : State := { connected := connected }

inductive StdinMove where
  | read (data : Data)
  | limit (err : Option String)
  | enqueue
  | result
  | timeout
  | process (move : Move)
  | report
  | cancelled

inductive MonitorMove where
  | notify (connected : Bool)
  | take
  | process (move : Move)
  | send
  | close
  | cancelled
  | closed

inductive ReaderMove where
  | receive (response : Option Response)
  | route
  | deliver
  | close
  | cancelled

inductive StopMove where
  | cancel
  | visit (key : Key)
  | remove
  | finish
  | close

inductive Label where
  | stdin (move : StdinMove)
  | monitor (move : MonitorMove)
  | reader (move : ReaderMove)
  | gateway (channel : Nat) (move : GatewayMove)
  | stop (move : StopMove)
  | connection (up : Bool)
  | expire (index : Nat)
  | drain

namespace Stdin

/-- What `handleStdinToWS` does with the error that `processStdinMessage` returned. -/
def returned (job : Job) : Option String → Stdin
  | none => .idle
  | some err => .report job.index job.data err

/-- `processStdinMessage` is in `processStdinMessageDirect`. -/
def resume (job : Job) : Progress → Stdin
  | .inside stage => .processing job stage
  | .returned err => .returned job err

end Stdin

def Monitor.resume (job : Job) (rest : List Job) : Progress → Monitor
  | .inside stage => .processing job stage rest
  | .returned err => .send job err rest

namespace State

def setResult (index : Nat) (slot : Slot (Option String)) (s : State) : State :=
  { s with results := update s.results index slot }

def crash (s : State) (cause : Crash) : State := { s with router := s.router.crash cause }

def queueFull (cfg : Config) : String :=
  "failed to queue request: request queue full (size: " ++ toString cfg.queueSize ++ ")"

/-- A step of the stdin loop. `processStdinMessageDirect` decodes the request again, with the same result. -/
def stepStdin (cfg : Config) (s : State) : StdinMove → Option State
  | .read data =>
    match s.stdin with
    | .idle =>
      let stdin := match data.decode with
        | .error cause => Stdin.report s.inputs.length data ("invalid JSON: " ++ cause)
        | .ok request => .limiting ⟨s.inputs.length,data,request⟩
      some { s with stdin := stdin, inputs := s.inputs ++ [data] }
    | _ => none
  | .limit err =>
    match s.stdin,err with
    | .limiting job,some cause => some { s with stdin := .report job.index job.data ("rate limit exceeded: " ++ cause) }
    | .limiting job,none =>
      if s.connected then some { s with stdin := .resume job (processStdinMessageDirect cfg job.request) }
      else some { s with stdin := .enqueue job }
    | _,_ => none
  | .enqueue =>
    match s.stdin with
    | .enqueue job =>
      if cfg.queueSize ≤ s.queue.length then
        some { s with stdin := .report job.index job.data (queueFull cfg) }
      else some { s with stdin := .queued job, queue := s.queue ++ [job] }
    | _ => none
  | .result =>
    match s.stdin with
    | .queued job =>
      -- A receive from the closed and empty channel yields a nil error; the deferred `cancel` ends the context.
      (s.results job.index).receive.map fun (err,slot) =>
        { s with
          stdin := .returned job err.join
          results := update s.results job.index slot
          expired := update s.expired job.index true }
    | _ => none
  | .timeout =>
    match s.stdin with
    | .queued job =>
      if s.expired job.index || s.router.cancelled then
        some { s with
          stdin := .report job.index job.data "request timeout while queued"
          expired := update s.expired job.index true }
      else none
    | _ => none
  | .process move =>
    match s.stdin with
    | .processing job stage =>
      (stage.step cfg job s.router move).map fun (progress,router) =>
        { s with stdin := .resume job progress, router := router }
    | _ => none
  | .report =>
    match s.stdin with
    | .report index data err =>
      if s.router.room then
        some { s with stdin := .idle, router := s.router.write index (some (errorResponse data.id err)) }
      else none
    | _ => none
  | .cancelled =>
    if !s.router.cancelled then none
    else match s.stdin with
      | .idle => some { s with stdin := .exited }
      | .report .. => some { s with stdin := .idle }
      | _ => none

/-- `RequestQueue.Clear`: every queued request gets the error, and its channel is closed. -/
def clear (err : String) : List Job → (Nat → Slot (Option String)) → Except Panic (Nat → Slot (Option String))
  | [],results => .ok results
  | job :: rest,results =>
    match (results job.index).offer (some err) with
    | .error panic => .error panic
    | .ok slot =>
      match slot.close with
      | .error panic => .error panic
      | .ok closed => clear err rest (update results job.index closed)

/-- A send that blocks while the buffer is taken. -/
def refuse (job : Job) (rest : List Job) (s : State) : Option State :=
  match (s.results job.index).offer (some "request context canceled") with
  | .error panic => some (s.crash (.channel panic))
  | .ok slot =>
    if (s.results job.index).value.isSome then none
    else some { s.setResult job.index slot with monitor := .close job rest }

def stepMonitor (cfg : Config) (s : State) : MonitorMove → Option State
  | .notify connected =>
    match s.monitor with
    | .idle lastConnected =>
      if !lastConnected && connected then some { s with monitor := .next s.queue, queue := [] }
      else some { s with monitor := .idle connected }
    | _ => none
  | .take =>
    match s.monitor with
    | .next [] => some { s with monitor := .idle true }
    | .next (job :: rest) =>
      if s.expired job.index || s.router.cancelled then some { s with monitor := .refuse job rest }
      else some { s with monitor := .resume job rest (processStdinMessageDirect cfg job.request) }
    | _ => none
  | .process move =>
    match s.monitor with
    | .processing job stage rest =>
      (stage.step cfg job s.router move).map fun (progress,router) =>
        { s with monitor := .resume job rest progress, router := router }
    | _ => none
  | .send =>
    match s.monitor with
    | .refuse job rest => s.refuse job rest
    | .send job err rest =>
      match (s.results job.index).offer err with
      | .error panic => some (s.crash (.channel panic))
      | .ok slot => some { s.setResult job.index slot with monitor := .close job rest }
    | _ => none
  | .close =>
    match s.monitor with
    | .close job rest =>
      match (s.results job.index).close with
      | .error panic => some (s.crash (.channel panic))
      | .ok slot => some { s.setResult job.index slot with monitor := .next rest }
    | _ => none
  | .cancelled =>
    match s.monitor with
    | .idle _ =>
      if !s.router.cancelled then none
      else match clear "router shutting down" s.queue s.results with
        | .error panic => some (s.crash (.channel panic))
        | .ok results => some { s with monitor := .exited, queue := [], results := results }
    | _ => none
  | .closed =>
    match s.monitor with
    | .idle _ => some { s with monitor := .exited }
    | _ => none

/-- A step of the gateway reader. A lost connection, a receive error and a `nil` response bring nothing. -/
def stepReader (s : State) : ReaderMove → Option State
  | .receive response =>
    match s.reader,response with
    | .idle,none => some s
    | .idle,some response =>
      some { s with
        reader := .routing response
        router := { s.router with received := response :: s.router.received } }
    | _,_ => none
  | .route =>
    match s.reader with
    | .routing response =>
      match s.router.load response.id with
      | some c => some { s with reader := .sending c response, router := s.router.delete response.id }
      | none => some { s with reader := .idle, router := s.router.delete response.id }
    | _ => none
  | .deliver =>
    match s.reader with
    | .sending c response => some { s with reader := .closing c, router := s.router.offer c response }
    | _ => none
  | .close =>
    match s.reader with
    | .closing c => some { s with reader := .idle, router := s.router.close c }
    | _ => none
  | .cancelled =>
    if !s.router.cancelled then none
    else match s.reader with
      | .idle => some { s with reader := .exited }
      | .sending c _ => some { s with reader := .closing c }
      | _ => none

/-- A step of `Stop`. `Range` shows each key at most once; the entry that `LoadAndDelete` removes may be another, but
    the channel kept for closing is the one shown. -/
def stepStop (s : State) : StopMove → Option State
  | .cancel =>
    match s.stop with
    | .unstarted => some { s with stop := .ranging [] [], router := { s.router with cancelled := true } }
    | _ => none
  | .visit key =>
    match s.stop with
    | .ranging visited channels =>
      if key ∈ visited then none
      else (s.router.pendingReqs.entries key).map fun c => { s with stop := .shown key c (key :: visited) channels }
    | _ => none
  | .remove =>
    match s.stop with
    | .shown key c visited channels =>
      match s.router.pendingReqs.entries key with
      | some _ =>
        some { s with
          stop := .ranging visited (channels ++ [c])
          router := { s.router with pendingReqs := s.router.pendingReqs.delete key } }
      | none => some { s with stop := .ranging visited channels }
    | _ => none
  | .finish =>
    match s.stop with
    | .ranging _ channels => some { s with stop := .closing channels }
    | _ => none
  | .close =>
    match s.stop with
    | .closing (c :: rest) => some { s with stop := .closing rest, router := s.router.close c }
    | _ => none

def stepGateway (cfg : Config) (c : Nat) (s : State) (move : GatewayMove) : Option State :=
  (s.router.goroutines c).bind fun g =>
    (g.step cfg c s.router move).map fun (pc,router) => { s with router := router.setPc c g pc }

end State

/-- A step of the router; a panic in any goroutine ends the process. -/
def step (cfg : Config) (s : State) (label : Label) : Option State :=
  if s.router.panic.isSome then none
  else match label with
    | .stdin move => s.stepStdin cfg move
    | .monitor move => s.stepMonitor cfg move
    | .reader move => s.stepReader move
    | .gateway c move => s.stepGateway cfg c move
    | .stop move => s.stepStop move
    | .connection up => some { s with connected := up }
    | .expire index => some { s with expired := update s.expired index true }
    | .drain =>
      if s.router.buffered = 0 then none
      else some { s with router := { s.router with buffered := s.router.buffered - 1 } }

inductive Taken (cfg : Config) (s : State) : Label → State → Prop
  | stdin {move : StdinMove} {next : State} (moved : s.stepStdin cfg move = some next) : Taken cfg s (.stdin move) next
  | monitor {move : MonitorMove} {next : State} (moved : s.stepMonitor cfg move = some next) :
      Taken cfg s (.monitor move) next
  | reader {move : ReaderMove} {next : State} (moved : s.stepReader move = some next) : Taken cfg s (.reader move) next
  | gateway {c : Nat} {move : GatewayMove} {g : Goroutine} {pc : GatewayPc} {router : Router}
      (found : s.router.goroutines c = some g) (moved : g.step cfg c s.router move = some (pc,router)) :
      Taken cfg s (.gateway c move) { s with router := router.setPc c g pc }
  | stop {move : StopMove} {next : State} (moved : s.stepStop move = some next) : Taken cfg s (.stop move) next
  | connection (up : Bool) : Taken cfg s (.connection up) { s with connected := up }
  | expire (index : Nat) : Taken cfg s (.expire index) { s with expired := update s.expired index true }
  | drain : Taken cfg s .drain { s with router := { s.router with buffered := s.router.buffered - 1 } }

theorem taken_of_step {cfg : Config} {s next : State} {label : Label} (stepped : step cfg s label = some next) :
    s.router.panic = none ∧ Taken cfg s label next := by
  obtain ⟨up,stepped⟩ := Option.ite_none_left_eq_some.mp stepped
  refine ⟨by simpa using up,?_⟩
  cases label with
  | stdin move => exact .stdin stepped
  | monitor move => exact .monitor stepped
  | reader move => exact .reader stepped
  | gateway c move =>
    obtain ⟨g,found,mapped⟩ := Option.bind_eq_some_iff.mp stepped
    obtain ⟨⟨pc,router⟩,moved,rfl⟩ := Option.map_eq_some_iff.mp mapped
    exact .gateway found moved
  | stop move => exact .stop stepped
  | connection up =>
    cases stepped
    exact .connection up
  | expire index =>
    cases stepped
    exact .expire index
  | drain =>
    simp only at stepped
    split at stepped <;> cases stepped
    exact .drain

end McpBridge.MessageRouter
