import McpBridge.RouterPanics

/-!
The connection manager and the message router together. `setState` changes the state and notifies the router through a
channel of ten places, dropping what does not fit; `handleConnectionStateChanges` works the queue off when it sees the
connection come up.
-/
namespace McpBridge.Wakeups
open Runs MessageRouter List Option
open MessageRouter (Config Job Monitor StdinStep MonitorStep stepStdin_cases stepMonitor_cases taken_of_step
  stepReader_untouched stepStop_untouched)

inductive ConnectionState where
  | init
  | connecting
  | connected
  | reconnecting
  | error
  | shutdown
  deriving DecidableEq, Repr

def ConnectionState.isConnected (state : ConnectionState) : Bool := decide (state = .connected)

def stateChangeChannelBuffer : Nat := 10

structure ConnectionManager where
  state : ConnectionState := .init
  stateChangeChan : List ConnectionState := []
  channelClosed : Bool := false

namespace ConnectionManager

def setState (state : ConnectionState) (cm : ConnectionManager) : ConnectionManager :=
  if cm.state ≠ state ∧ cm.channelClosed = false ∧ cm.stateChangeChan.length < stateChangeChannelBuffer then
    { cm with state := state, stateChangeChan := cm.stateChangeChan ++ [state] }
  else { cm with state := state }

def stop (cm : ConnectionManager) : ConnectionManager :=
  if cm.channelClosed then cm else { cm with state := .shutdown, channelClosed := true }

theorem setState_state (state : ConnectionState) (cm : ConnectionManager) : (cm.setState state).state = state := by
  unfold setState
  split <;> rfl

end ConnectionManager

/-! ### The two together -/

structure System where
  manager : ConnectionManager := {}
  router : State := start false

inductive Label where
  | setState (state : ConnectionState)
  | stopManager
  | observe
  | router (label : MessageRouter.Label)

def Foreign : MessageRouter.Label → Bool
  | .connection _ => true
  | .monitor (.notify _) => true
  | .monitor .closed => true
  | _ => false

/-- One step of the router or of its connection. -/
def step (cfg : Config) (s : System) : Label → Option System
  | .setState state =>
    (MessageRouter.step cfg s.router (.connection state.isConnected)).map fun router =>
      ⟨s.manager.setState state,router⟩
  | .stopManager =>
    (MessageRouter.step cfg s.router (.connection s.manager.stop.state.isConnected)).map fun router =>
      ⟨s.manager.stop,router⟩
  | .observe =>
    match s.manager.stateChangeChan with
    | newState :: rest =>
      (MessageRouter.step cfg s.router (.monitor (.notify newState.isConnected))).map fun router =>
        ⟨{ s.manager with stateChangeChan := rest },router⟩
    | [] =>
      if s.manager.channelClosed then
        (MessageRouter.step cfg s.router (.monitor .closed)).map fun router => { s with router := router }
      else none
  | .router label =>
    if Foreign label then none
    else (MessageRouter.step cfg s.router label).map fun router => { s with router := router }

/-! ### Wake-ups under way -/

/-- The states that the handler is to see take the connection from not connected to connected. -/
def rises : Bool → List ConnectionState → Bool
  | _,[] => false
  | last,state :: rest => (!last && state.isConnected) || rises state.isConnected rest

/-- Whether `lastState` is `StateConnected` when the handler next receives, if it does. -/
def lastConnected : Monitor → Option Bool
  | .idle last => some last
  | .exited => none
  | _ => some true

def Live (s : State) : Prop := ∃ job ∈ s.queue, s.expired job.index = false

/-- The connection is up, the handler has nothing to do or to be told, and a request waits in the queue. -/
def Stuck (s : System) : Prop :=
  s.manager.state = .connected ∧ s.manager.stateChangeChan = [] ∧ (∃ last, s.router.monitor = .idle last) ∧ Live s.router

/-- The connection is up, a request waits in the queue, and the handler will not see the connection rise. -/
def Stranded (s : System) : Prop :=
  s.manager.state = .connected ∧ Live s.router ∧
    ∃ last, lastConnected s.router.monitor = some last ∧ rises last s.manager.stateChangeChan = false

theorem Stuck.stranded {s : System} (stuck : Stuck s) : Stranded s := by
  obtain ⟨up,empty,⟨last,idle⟩,live⟩ := stuck
  exact ⟨up,live,last,by rw [idle]; rfl,by rw [empty]; rfl⟩

/-- A request enters the queue of a connection that is up, or the connection comes up over a queue with a request, only
    while the handler is going to see it. -/
def Wakes (cfg : Config) (s : System) : Label → Prop
  | .setState .connected =>
    Live s.router → ∀ last, lastConnected s.router.monitor = some last →
      rises last (s.manager.setState .connected).stateChangeChan = true
  | .router (.stdin .enqueue) =>
    s.manager.state = .connected → ∀ job, s.router.stdin = .enqueue job → s.router.queue.length < cfg.queueSize →
      s.router.expired job.index = false → ∀ last, lastConnected s.router.monitor = some last →
        rises last s.manager.stateChangeChan = true
  | _ => True

/-! ### What a step does to the wake-ups under way -/

section steps
variable {cfg : Config} {state : ConnectionState} {last : Bool}

theorem lastConnected_resume (job : Job) (rest : List Job) (progress : Progress) :
    lastConnected (.resume job rest progress) = some true := by
  cases progress <;> rfl

/-- The router by itself takes requests out of the queue, except in `enqueue`, and the handler keeps its last state
    until it returns. -/
theorem router_keeps {s next : State} {label : MessageRouter.Label} (own : Foreign label = false)
    (other : label ≠ .stdin .enqueue) (taken : MessageRouter.step cfg s label = some next) : (Live next → Live s) ∧
      (lastConnected next.monitor = lastConnected s.monitor ∨ lastConnected next.monitor = none) := by
  obtain ⟨-,way⟩ := taken_of_step taken
  have same {b : State} (queue : b.queue = s.queue) (expired : b.expired = s.expired) : Live b → Live s := by
    unfold Live
    rw [queue,expired]
    exact id
  have later {b : State} {i : Nat} (queue : b.queue = s.queue)
      (expired : b.expired = Function.update s.expired i true) : Live b → Live s := by
    rintro ⟨job,queued,live⟩
    rw [queue] at queued
    rw [expired] at live
    by_cases hit : job.index = i
    · simp [hit] at live
    · exact ⟨job,queued,by simpa [hit] using live⟩
  cases way with
  | stdin moved =>
    cases stepStdin_cases moved with
    | overflown | enqueued => exact absurd rfl other
    | resulted | timedOut => exact ⟨later rfl rfl,.inl rfl⟩
    | _ => exact ⟨id,.inl rfl⟩
  | monitor moved =>
    cases stepMonitor_cases moved with
    | woken | noted | left => cases own
    | rested at_ | refused at_ | refusal at_ | sent at_ | closed at_ =>
      rw [at_]
      exact ⟨id,.inl rfl⟩
    | begun at_ | processed at_ =>
      rw [at_,lastConnected_resume]
      exact ⟨id,.inl rfl⟩
    | cleared => exact ⟨fun ⟨_,queued,_⟩ => absurd queued not_mem_nil,.inr rfl⟩
    | crashed => exact ⟨id,.inl rfl⟩
  | reader moved =>
    obtain ⟨kept,-⟩ := stepReader_untouched moved
    rw [kept.monitor]
    exact ⟨same kept.queue kept.expired,.inl rfl⟩
  | stop moved =>
    obtain ⟨kept,-⟩ := stepStop_untouched moved
    rw [kept.monitor]
    exact ⟨same kept.queue kept.expired,.inl rfl⟩
  | expire index => exact ⟨later rfl rfl,.inl rfl⟩
  | gateway | drain => exact ⟨id,.inl rfl⟩
  | connection up => cases own

theorem rises_calm {rest : List ConnectionState}
    (calm : last = true ∨ state.isConnected = false) : rises last (state :: rest) = rises state.isConnected rest := by
  obtain rfl | down := calm
  · simp [rises]
  · simp [rises,down]

/-- No state change that the handler receives leaves a request behind. -/
theorem observe_keeps {s next : System} (taken : step cfg s .observe = some next) (stranded : Stranded next) :
    Stranded s := by
  obtain ⟨up,live,last,seen,calm⟩ := stranded
  simp only [step] at taken
  split at taken
  next state rest chan =>
    obtain ⟨router,moved,rfl⟩ := map_eq_some_iff.mp taken
    obtain ⟨-,way⟩ := taken_of_step moved
    cases way with
    | monitor moved =>
      generalize arrived : state.isConnected = connected at moved
      cases stepMonitor_cases moved with
      | woken =>
        obtain ⟨job,queued,-⟩ := live
        cases queued
      | @noted before _ at_ quiet =>
        cases seen
        subst arrived
        refine ⟨up,live,before,by rw [at_]; rfl,?_⟩
        rw [chan,rises_calm quiet]
        exact calm
      | crashed panic answering => obtain same | same | same := answering <;> cases same
  next chan =>
    split at taken
    next =>
      obtain ⟨router,moved,rfl⟩ := map_eq_some_iff.mp taken
      obtain ⟨-,way⟩ := taken_of_step moved
      cases way with
      | monitor moved =>
        cases stepMonitor_cases moved with
        | left => cases seen
        | crashed panic answering => obtain same | same | same := answering <;> cases same
    next => cases taken

/-- A request that enters the queue is left behind exactly when the handler will not see the connection rise. -/
theorem enqueue_strands {s next : System} (calm : ¬ Stranded s)
    (taken : step cfg s (.router (.stdin .enqueue)) = some next) :
    ¬ Stranded next ↔ Wakes cfg s (.router (.stdin .enqueue)) := by
  obtain ⟨router,moved,rfl⟩ := map_eq_some_iff.mp taken
  obtain ⟨-,way⟩ := taken_of_step moved
  cases way with
  | stdin moved =>
    cases stepStdin_cases moved with
    | @overflown job at_ full =>
      constructor
      · intro _ _ other at_' space
        omega
      · exact fun _ => calm
    | @enqueued job at_ space =>
      constructor
      · intro safe up other at_' _ live last seen
        obtain rfl : other = job := by
          rw [at_] at at_'
          cases at_'
          rfl
        by_contra flat
        have waits : Live { s.router with stdin := .queued other, queue := s.router.queue ++ [other] } :=
          ⟨other,mem_append_right _ (mem_singleton_self other),live⟩
        exact safe ⟨up,waits,last,seen,Bool.eq_false_iff.mpr flat⟩
      · rintro wakes ⟨up,⟨other,queued,live⟩,last,seen,flat⟩
        obtain before | here := mem_append.mp queued
        · exact calm ⟨up,⟨other,before,live⟩,last,seen,flat⟩
        · rw [mem_singleton.mp here] at live
          have rise := wakes up job at_ space live last seen
          rw [flat] at rise
          cases rise

theorem setState_strands {s next : System} (taken : step cfg s (.setState state) = some next) :
    ¬ Stranded next ↔ Wakes cfg s (.setState state) := by
  obtain ⟨router,moved,rfl⟩ := map_eq_some_iff.mp taken
  obtain ⟨-,way⟩ := taken_of_step moved
  cases way with
  | connection =>
    unfold Stranded
    rw [ConnectionManager.setState_state]
    cases state with
    | connected =>
      constructor
      · intro safe live last seen
        by_contra flat
        exact safe ⟨rfl,live,last,seen,Bool.eq_false_iff.mpr flat⟩
      · rintro wakes ⟨-,live,last,seen,flat⟩
        have rise := wakes live last seen
        rw [flat] at rise
        cases rise
    | _ => exact ⟨fun _ => trivial,fun _ stranded => nomatch stranded.1⟩

theorem step_strands {s next : System} {label : Label} (calm : ¬ Stranded s) (taken : step cfg s label = some next) :
    ¬ Stranded next ↔ Wakes cfg s label := by
  cases label with
  | setState state => exact setState_strands taken
  | stopManager =>
    refine ⟨fun _ => trivial,fun _ => ?_⟩
    obtain ⟨router,moved,rfl⟩ := map_eq_some_iff.mp taken
    obtain ⟨-,way⟩ := taken_of_step moved
    cases way with
    | connection =>
      rintro ⟨up,rest⟩
      simp only [ConnectionManager.stop] at up rest
      split at up
      next closed =>
        simp only [closed,if_true] at rest
        exact calm ⟨up,rest⟩
      next => cases up
  | observe => exact ⟨fun _ => trivial,fun _ stranded => calm (observe_keeps taken stranded)⟩
  | router label =>
    by_cases enqueues : label = .stdin .enqueue
    · subst enqueues
      exact enqueue_strands calm taken
    · have trivially : Wakes cfg s (.router label) := by
        unfold Wakes
        split
        next same => cases same
        next same =>
          cases same
          exact absurd rfl enqueues
        next => trivial
      refine ⟨fun _ => trivially,fun _ => ?_⟩
      simp only [step] at taken
      split at taken
      next => cases taken
      next own =>
        obtain ⟨router,moved,rfl⟩ := map_eq_some_iff.mp taken
        obtain ⟨alive,heard⟩ := router_keeps (Bool.eq_false_iff.mpr own) enqueues moved
        rintro ⟨up,live,last,seen,flat⟩
        obtain same | gone := heard
        · exact calm ⟨up,alive live,last,same ▸ seen,flat⟩
        · rw [gone] at seen
          cases seen

/-- A handler with nothing to do that will not see the connection rise leaves the request in the queue. -/
theorem stranded_observes {chan : List ConnectionState} {s : System} (up : s.manager.state = .connected)
    (live : Live s.router) (idle : s.router.monitor = .idle last) (running : s.router.router.panic = none)
    (pending : s.manager.stateChangeChan = chan) (flat : rises last chan = false) :
    ∃ t, run (step cfg) s (replicate chan.length .observe) = some t ∧ Stuck t := by
  induction chan generalizing s last with
  | nil => exact ⟨s,rfl,up,pending,⟨last,idle⟩,live⟩
  | cons state rest ih =>
    simp only [rises,Bool.or_eq_false_iff,Bool.and_eq_false_iff] at flat
    obtain ⟨quiet,flat⟩ := flat
    let next : System :=
      ⟨{ s.manager with stateChangeChan := rest },{ s.router with monitor := .idle state.isConnected }⟩
    have taken : step cfg s .observe = some next := by
      have calm : (!last && state.isConnected) = false := Bool.and_eq_false_iff.mpr quiet
      simp [step,pending,MessageRouter.step,running,State.stepMonitor,idle,calm,next]
    obtain ⟨t,executed,stuck⟩ := ih (s := next) up live rfl running rfl flat
    exact ⟨t,run_cons_eq_some.mpr ⟨next,taken,executed⟩,stuck⟩

end steps

section runs
variable {cfg : Config} {labels : List Label} {t : System}

theorem stranded_never_iff (executed : run (step cfg) {} labels = some t) :
    Always (step cfg) (¬ Stranded ·) {} labels ↔ Meets (step cfg) (Wakes cfg) {} labels := by
  have calm : ¬ Stranded {} := by
    rintro ⟨up,-⟩
    cases up
  have breaks (s : System) (label : Label) (next : System) (_ : True) (quiet : ¬ Stranded s)
      (taken : step cfg s label = some next) : ¬ Stranded next ↔ Wakes cfg s label := step_strands quiet taken
  exact always_iff_meets (fun _ _ _ _ _ => trivial) breaks trivial calm executed

theorem running_of_step {s next : System} {label : Label} (taken : step cfg s label = some next)
    (misses : ¬ Wakes cfg s label) : next.router.router.panic = none := by
  unfold Wakes at misses
  split at misses
  next =>
    obtain ⟨router,moved,rfl⟩ := map_eq_some_iff.mp taken
    obtain ⟨running,way⟩ := taken_of_step moved
    cases way
    exact running
  next =>
    obtain ⟨router,moved,rfl⟩ := map_eq_some_iff.mp taken
    obtain ⟨running,way⟩ := taken_of_step moved
    cases way with
    | stdin moved => cases stepStdin_cases moved <;> exact running
  next => exact absurd trivial misses

/-- A run whose steps all meet the condition forgets no queued request. After the first that misses it a handler with
    nothing to do only has to receive the changes still in the channel, and the request is forgotten. -/
theorem queued_request_not_forgotten (executed : run (step cfg) {} labels = some t)
    (meets : Meets (step cfg) (Wakes cfg) {} labels) :
    ¬ Stuck t ∧ ∀ label next, step cfg t label = some next → ¬ Wakes cfg t label →
      Stranded next ∧ ((∃ last, next.router.monitor = .idle last) →
        ∃ n u, run (step cfg) next (replicate n .observe) = some u ∧ Stuck u) := by
  have calm : ¬ Stranded t := (stranded_never_iff executed).mpr meets |>.last executed
  refine ⟨fun stuck => calm stuck.stranded,?_⟩
  intro label next taken misses
  have stranded : Stranded next := by
    by_contra quiet
    exact misses ((step_strands calm taken).mp quiet)
  refine ⟨stranded,?_⟩
  rintro ⟨last,idle⟩
  obtain ⟨up,live,seen,heard,flat⟩ := stranded
  rw [idle] at heard
  cases heard
  obtain ⟨u,observed,stuck⟩ := stranded_observes up live idle (running_of_step taken misses) rfl flat
  exact ⟨_,u,observed,stuck⟩

end runs

/-! ### A request that comes while the connection rises -/

def parks : List Label := [.router (.stdin (.read (toolsList (.number 1)))),.router (.stdin (.limit none))]

def rise : List Label := [.setState .connected,.observe]

def queuedThenRises : List Label := parks ++ [.router (.stdin .enqueue)] ++ rise

theorem queuedThenRises_wakes : Meets (step {}) (Wakes {}) {} queuedThenRises := by
  refine ⟨trivial,?_⟩
  rintro _ ⟨⟩
  refine ⟨trivial,?_⟩
  rintro _ ⟨⟩
  refine ⟨nofun,?_⟩
  rintro _ ⟨⟩
  refine ⟨?_,fun _ _ => ⟨trivial,fun _ _ => trivial⟩⟩
  rintro - last ⟨⟩
  rfl

theorem request_before_rise_woken : ∃ t, run (step {}) {} queuedThenRises = some t ∧ t.router.queue = [] ∧ ¬ Stuck t :=
  ⟨_,rfl,rfl,(@queued_request_not_forgotten {} queuedThenRises _ rfl queuedThenRises_wakes).1⟩

/-- The connection comes up between the test of the state and the `Enqueue`: the handler empties the queue before
    that. -/
theorem request_during_rise_forgotten :
    ∃ t, run (step {}) {} (parks ++ rise ++ [.router (.monitor .take),.router (.stdin .enqueue)]) = some t ∧
      Stuck t ∧ ∃ job, t.router.stdin = .queued job ∧ t.router.queue = [job] := by
  refine ⟨_,rfl,⟨rfl,rfl,⟨true,rfl⟩,?_⟩,_,rfl,rfl⟩
  exact ⟨_,mem_singleton_self _,rfl⟩

end McpBridge.Wakeups
