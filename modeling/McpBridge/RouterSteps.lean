import McpBridge.MessageRouter

/-!
What each goroutine of the router can do in one step, said once: a request on the direct path (`StageStep`), a goroutine
of the gateway path (`GatewayStep`), the stdin loop (`StdinStep`), the monitor (`MonitorStep`), and what the reader and
`Stop` leave alone.
-/
namespace McpBridge.MessageRouter
open Values Channels Pending Runs List Function Router Option

/-- An operation on `pendingReqs` or on a channel does nothing else. -/
structure Router.Same (r next : Router) : Prop where
  goroutines : next.goroutines = r.goroutines
  lines : next.lines = r.lines
  received : next.received = r.received
  cancelled : next.cancelled = r.cancelled

namespace Router
variable {r : Router}

theorem store_same (id : Any) : Same r (r.store id) := by
  unfold store
  split <;> exact ⟨rfl,rfl,rfl,rfl⟩

theorem delete_same (id : Any) : Same r (r.delete id) := by
  unfold delete
  split <;> exact ⟨rfl,rfl,rfl,rfl⟩

theorem close_same (c : Nat) : Same r (r.close c) := by
  unfold close
  split <;> exact ⟨rfl,rfl,rfl,rfl⟩

@[simp] theorem processGatewayRequest_lines (job : Job) : (r.processGatewayRequest job).lines = r.lines := by
  unfold processGatewayRequest
  split <;> rfl

@[simp] theorem processGatewayRequest_received (job : Job) : (r.processGatewayRequest job).received = r.received := by
  unfold processGatewayRequest
  split <;> rfl

@[simp] theorem processGatewayRequest_cancelled (job : Job) : (r.processGatewayRequest job).cancelled = r.cancelled := by
  unfold processGatewayRequest
  split <;> rfl

theorem offer_same (c : Nat) (x : Response) : Same r (r.offer c x) := by
  unfold offer
  split <;> exact ⟨rfl,rfl,rfl,rfl⟩

end Router

inductive StageStep (cfg : Config) (job : Job) (r : Router) : Stage → Move → Progress → Router → Prop
  | stored (mode : Mode) : StageStep cfg job r (.setup mode) .go (.inside (.request mode)) (r.store job.request.id)
  | answered (mode : Mode) (outcome : DirectOutcome) :
      StageStep cfg job r (.request mode) (.answer outcome) (afterAnswer mode outcome) (r.answered outcome)
  | responded (mode : Mode) (response : Response) (room : r.room = true) :
      StageStep cfg job r (.respond mode response) .go (afterRespond mode none) (r.write job.index (some response))
  | interrupted (mode : Mode) (response : Response) (cancelled : r.cancelled = true) :
      StageStep cfg job r (.respond mode response) .cancelled (afterRespond mode (some "context canceled")) r
  | removed (mode : Mode) (after : DirectAfter) {c : Nat} (found : r.load job.request.id = some c) :
      StageStep cfg job r (.cleanup mode after) .go (.inside (.close mode c after)) (r.delete job.request.id)
  | missing (mode : Mode) (after : DirectAfter) (absent : r.load job.request.id = none) :
      StageStep cfg job r (.cleanup mode after) .go (afterCleanup cfg mode after) (r.delete job.request.id)
  | closed (mode : Mode) (c : Nat) (after : DirectAfter) :
      StageStep cfg job r (.close mode c after) .go (afterCleanup cfg mode after) (r.close c)
  | retried (n : Int) : StageStep cfg job r (.delay n) .timer (.inside (.setup (.attempt n))) r
  | abandoned (n : Int) (cancelled : r.cancelled = true) :
      StageStep cfg job r (.delay n) .cancelled (.inside .gateway) r
  | handed : StageStep cfg job r .gateway .go (.returned none) (r.processGatewayRequest job)

variable {cfg : Config} {job : Job} {progress : Progress} {move : GatewayMove} {pc : GatewayPc} {stage : Stage}
  {g : Goroutine} {c : Nat}

theorem Stage.step_cases {r next : Router} {move : Move}
    (taken : stage.step cfg job r move = some (progress,next)) : StageStep cfg job r stage move progress next := by
  revert taken
  fun_cases Stage.step cfg job r stage move <;> rintro ⟨⟩
  case case1 => exact .stored _
  case case2 => exact .answered _ _
  case case3 room => exact .responded _ _ room
  case case5 cancelled => exact .interrupted _ _ cancelled
  case case7 found => exact .removed _ _ found
  case case8 absent => exact .missing _ _ absent
  case case9 => exact .closed _ _ _
  case case10 => exact .retried _
  case case11 cancelled => exact .abandoned _ cancelled
  case case13 => exact .handed

inductive GatewayStep (cfg : Config) (c : Nat) (g : Goroutine) (r : Router) : GatewayMove → GatewayPc → Router → Prop
  | sent (at_ : g.pc = .send) : GatewayStep cfg c g r (.send none) .wait r
  | failed {cause : String} (at_ : g.pc = .send) :
      GatewayStep cfg c g r (.send (some cause)) (.cleanup (.report cause)) r
  | received {response : Option Response} {table : Table Key Response} (at_ : g.pc = .wait)
      (got : r.pendingReqs.receive c = some (response,table)) :
      GatewayStep cfg c g r .receive (.deliver response) { r with pendingReqs := table }
  | timedOut (at_ : g.pc = .wait) : GatewayStep cfg c g r .timeout (.cleanup .timedOut) r
  | stuck {response : Option Response} (at_ : g.pc = .deliver response) :
      GatewayStep cfg c g r .timeout (.cleanup (.report "timeout sending response to stdout after 5s")) r
  | quit (at_ : g.pc = .wait) (cancelled : r.cancelled = true) : GatewayStep cfg c g r .cancelled (.cleanup .quit) r
  | interrupted {response : Option Response} (at_ : g.pc = .deliver response) (cancelled : r.cancelled = true) :
      GatewayStep cfg c g r .cancelled (.cleanup (.report "context canceled")) r
  | silenced {message : String} (at_ : g.pc = .report message) (cancelled : r.cancelled = true) :
      GatewayStep cfg c g r .cancelled .done r
  | delivered {response : Option Response} (at_ : g.pc = .deliver response) (room : r.room = true) :
      GatewayStep cfg c g r .go .done (r.write g.job.index response)
  | removed {after : GatewayAfter} {d : Nat} (at_ : g.pc = .cleanup after) (found : r.load g.job.request.id = some d) :
      GatewayStep cfg c g r .go (.close d after) (r.delete g.job.request.id)
  | missing {after : GatewayAfter} (at_ : g.pc = .cleanup after) (absent : r.load g.job.request.id = none) :
      GatewayStep cfg c g r .go after.pc (r.delete g.job.request.id)
  | closed {d : Nat} {after : GatewayAfter} (at_ : g.pc = .close d after) :
      GatewayStep cfg c g r .go after.pc (r.close d)
  | gaveUp (at_ : g.pc = .timedOut) (cancelled : r.cancelled = true) : GatewayStep cfg c g r .go .done r
  | overdue (at_ : g.pc = .timedOut) (uncancelled : r.cancelled = false) :
      GatewayStep cfg c g r .go (.report ("request timeout after " ++ cfg.requestTimeout)) r
  | reported {message : String} (at_ : g.pc = .report message) (room : r.room = true) :
      GatewayStep cfg c g r .go .done (r.write g.job.index (some (errorResponse g.job.request.id message)))

theorem Goroutine.step_cases {r next : Router}
    (taken : g.step cfg c r move = some (pc,next)) : GatewayStep cfg c g r move pc next := by
  revert taken
  fun_cases Goroutine.step cfg c g r move <;> intro taken
  case case4 at_ =>
    obtain ⟨⟨response,table⟩,got,same⟩ := map_eq_some_iff.mp taken
    cases same
    exact .received at_ got
  all_goals cases taken
  case case1 at_ => exact .sent at_
  case case2 at_ => exact .failed at_
  case case6 at_ => exact .timedOut at_
  case case7 at_ => exact .stuck at_
  case case10 cancelled at_ => exact .quit at_ (by simpa using cancelled)
  case case11 cancelled _ at_ => exact .interrupted at_ (by simpa using cancelled)
  case case12 cancelled _ at_ => exact .silenced at_ (by simpa using cancelled)
  case case14 at_ room => exact .delivered at_ room
  case case16 at_ _ found => exact .removed at_ found
  case case17 at_ absent => exact .missing at_ absent
  case case18 at_ => exact .closed at_
  case case19 at_ =>
    cases cancelled : r.cancelled with
    | true => exact .gaveUp at_ cancelled
    | false => exact .overdue at_ cancelled
  case case20 at_ room => exact .reported at_ room

/-- The responses that a move brings. -/
def Move.responses : Move → List Response
  | .answer (.response response) => [response]
  | _ => []

theorem Stage.step_outputs {r next : Router} {move : Move}
    (taken : stage.step cfg job r move = some (progress,next)) :
    next.cancelled = r.cancelled ∧ next.received = move.responses ++ r.received ∧ (next.lines = r.lines ∨
      ∃ mode response, stage = .respond mode response ∧ next.lines = ⟨job.index,some response⟩ :: r.lines) := by
  cases Stage.step_cases taken with
  | stored mode =>
    have same := store_same (r := r) job.request.id
    exact ⟨same.cancelled,same.received,.inl same.lines⟩
  | answered mode outcome => cases outcome <;> exact ⟨rfl,rfl,.inl rfl⟩
  | responded mode response room => exact ⟨rfl,rfl,.inr ⟨mode,response,rfl,rfl⟩⟩
  | removed | missing =>
    have same := delete_same (r := r) job.request.id
    exact ⟨same.cancelled,same.received,.inl same.lines⟩
  | closed mode c after =>
    have same := close_same (r := r) c
    exact ⟨same.cancelled,same.received,.inl same.lines⟩
  | handed =>
    exact ⟨processGatewayRequest_cancelled job,processGatewayRequest_received job,
      .inl (processGatewayRequest_lines job)⟩
  | _ => exact ⟨rfl,rfl,.inl rfl⟩

theorem Goroutine.step_lines {r router : Router}
    (taken : g.step cfg c r move = some (pc,router)) : router.received = r.received ∧ (router.lines = r.lines ∨
      (∃ x, g.pc = .deliver x ∧ router.lines = ⟨g.job.index,x⟩ :: r.lines) ∨
      ∃ message, router.lines = ⟨g.job.index,some (errorResponse g.job.request.id message)⟩ :: r.lines) := by
  cases Goroutine.step_cases taken with
  | delivered at_ room => exact ⟨rfl,.inr (.inl ⟨_,at_,rfl⟩)⟩
  | removed | missing =>
    have same := delete_same (r := r) g.job.request.id
    exact ⟨same.received,.inl same.lines⟩
  | @closed d after at_ =>
    have same := close_same (r := r) d
    exact ⟨same.received,.inl same.lines⟩
  | reported at_ room => exact ⟨rfl,.inr (.inr ⟨_,rfl⟩)⟩
  | _ => exact ⟨rfl,.inl rfl⟩

inductive StdinStep (cfg : Config) (s : State) : StdinMove → State → Prop
  | malformed {data : Data} {cause : String} (at_ : s.stdin = .idle) (decoded : data.decode = .error cause) :
      StdinStep cfg s (.read data) { s with
        stdin := .report s.inputs.length data ("invalid JSON: " ++ cause), inputs := s.inputs ++ [data] }
  | accepted {data : Data} {request : Request} (at_ : s.stdin = .idle) (decoded : data.decode = .ok request) :
      StdinStep cfg s (.read data) { s with
        stdin := .limiting ⟨s.inputs.length,data,request⟩, inputs := s.inputs ++ [data] }
  | limited {job : Job} {cause : String} (at_ : s.stdin = .limiting job) :
      StdinStep cfg s (.limit (some cause)) { s with
        stdin := .report job.index job.data ("rate limit exceeded: " ++ cause) }
  | begun {job : Job} (at_ : s.stdin = .limiting job) (up : s.connected = true) :
      StdinStep cfg s (.limit none) { s with stdin := .resume job (processStdinMessageDirect cfg job.request) }
  | parked {job : Job} (at_ : s.stdin = .limiting job) (down : s.connected = false) :
      StdinStep cfg s (.limit none) { s with stdin := .enqueue job }
  | overflown {job : Job} (at_ : s.stdin = .enqueue job) (full : cfg.queueSize ≤ s.queue.length) :
      StdinStep cfg s .enqueue { s with stdin := .report job.index job.data (State.queueFull cfg) }
  | enqueued {job : Job} (at_ : s.stdin = .enqueue job) (space : s.queue.length < cfg.queueSize) :
      StdinStep cfg s .enqueue { s with stdin := .queued job, queue := s.queue ++ [job] }
  | resulted {job : Job} {err : Option (Option String)} {slot : Slot (Option String)} (at_ : s.stdin = .queued job)
      (received : (s.results job.index).receive = some (err,slot)) :
      StdinStep cfg s .result { s with
        stdin := .returned job err.join
        results := update s.results job.index slot
        expired := update s.expired job.index true }
  | timedOut {job : Job} (at_ : s.stdin = .queued job)
      (ended : s.expired job.index = true ∨ s.router.cancelled = true) :
      StdinStep cfg s .timeout { s with
        stdin := .report job.index job.data "request timeout while queued"
        expired := update s.expired job.index true }
  | processed {job : Job} {stage : Stage} {move : Move} {progress : Progress} {router : Router}
      (at_ : s.stdin = .processing job stage) (moved : stage.step cfg job s.router move = some (progress,router)) :
      StdinStep cfg s (.process move) { s with stdin := .resume job progress, router := router }
  | reported {index : Nat} {data : Data} {err : String} (at_ : s.stdin = .report index data err)
      (room : s.router.room = true) :
      StdinStep cfg s .report { s with
        stdin := .idle, router := s.router.write index (some (errorResponse data.id err)) }
  | silenced {index : Nat} {data : Data} {err : String} (at_ : s.stdin = .report index data err)
      (cancelled : s.router.cancelled = true) : StdinStep cfg s .cancelled { s with stdin := .idle }
  | left (at_ : s.stdin = .idle) (cancelled : s.router.cancelled = true) :
      StdinStep cfg s .cancelled { s with stdin := .exited }

section steps
variable {cfg : Config} {s next : State} {rest : List Job} {label : Label}

theorem stepStdin_cases {move : StdinMove} (taken : s.stepStdin cfg move = some next) : StdinStep cfg s move next := by
  revert taken
  fun_cases State.stepStdin cfg s move <;> intro taken
  case case10 at_ =>
    obtain ⟨⟨err,slot⟩,received,rfl⟩ := map_eq_some_iff.mp taken
    exact .resulted at_ received
  case case15 at_ =>
    obtain ⟨⟨progress,router⟩,moved,rfl⟩ := map_eq_some_iff.mp taken
    exact .processed at_ moved
  all_goals cases taken
  case case1 data at_ stdin =>
    subst stdin
    cases decoded : data.decode with
    | error cause => exact .malformed at_ decoded
    | ok request => exact .accepted at_ decoded
  case case3 at_ => exact .limited at_
  case case4 at_ up => exact .begun at_ up
  case case5 at_ down => exact .parked at_ (Bool.eq_false_iff.mpr down)
  case case7 at_ full => exact .overflown at_ full
  case case8 at_ space => exact .enqueued at_ (Nat.lt_of_not_le space)
  case case12 at_ ended => exact .timedOut at_ (Bool.or_eq_true_iff.mp ended)
  case case17 at_ room => exact .reported at_ room
  case case21 cancelled at_ => exact .left at_ (by simpa using cancelled)
  case case22 cancelled _ _ _ at_ => exact .silenced at_ (by simpa using cancelled)

/-- The queued requests that `processQueuedRequests` has in hand. -/
def Monitor.jobs : Monitor → List Job
  | .next rest => rest
  | .processing job _ rest => job :: rest
  | .refuse job rest => job :: rest
  | .send job _ rest => job :: rest
  | .close job rest => job :: rest
  | _ => []

def State.waiting (s : State) : List Nat := (s.monitor.jobs ++ s.queue).map Job.index

@[simp] theorem Monitor.resume_jobs (job : Job) (rest : List Job) (progress : Progress) :
    (Monitor.resume job rest progress).jobs = job :: rest := by
  cases progress <;> rfl

open State

/-- `Clear` closes every channel of the queue once. -/
theorem clear_ok (err : String) (queue : List Job) (results : Nat → Slot (Option String))
    (once : (queue.map Job.index).Nodup) (opened : ∀ i ∈ queue.map Job.index, (results i).closed = false) :
    ∃ cleared, clear err queue results = .ok cleared ∧ ∀ i, i ∉ queue.map Job.index → cleared i = results i := by
  induction queue generalizing results with
  | nil => exact ⟨results,rfl,fun _ _ => rfl⟩
  | cons job rest ih =>
    obtain ⟨absent,once⟩ := nodup_cons.mp once
    obtain ⟨slot,offered,stays⟩ := Slot.offer_of_open (some err) (opened job.index (mem_cons_self ..))
    have same : ∀ i ∈ rest.map Job.index, update results job.index { slot with closed := true } i = results i :=
      fun i member => update_of_ne (fun equal : i = job.index => absent (equal ▸ member)) ..
    obtain ⟨cleared,run,others⟩ := ih (update results job.index { slot with closed := true }) once
      (fun i member => by rw [same i member]; exact opened i (mem_cons_of_mem _ member))
    refine ⟨cleared,?_,?_⟩
    · simp only [clear,offered,Slot.close,stays]
      exact run
    · intro i outside
      rw [map_cons,mem_cons,not_or] at outside
      rw [others i outside.2,update_of_ne outside.1]

inductive MonitorStep (cfg : Config) (s : State) : MonitorMove → State → Prop
  | woken (at_ : s.monitor = .idle false) :
      MonitorStep cfg s (.notify true) { s with monitor := .next s.queue, queue := [] }
  | noted {last up : Bool} (at_ : s.monitor = .idle last) (calm : last = true ∨ up = false) :
      MonitorStep cfg s (.notify up) { s with monitor := .idle up }
  | rested (at_ : s.monitor = .next []) : MonitorStep cfg s .take { s with monitor := .idle true }
  | refused {job : Job} {rest : List Job} (at_ : s.monitor = .next (job :: rest))
      (ended : s.expired job.index = true ∨ s.router.cancelled = true) :
      MonitorStep cfg s .take { s with monitor := .refuse job rest }
  | begun {job : Job} {rest : List Job} (at_ : s.monitor = .next (job :: rest)) (live : s.expired job.index = false)
      (uncancelled : s.router.cancelled = false) :
      MonitorStep cfg s .take { s with monitor := .resume job rest (processStdinMessageDirect cfg job.request) }
  | processed {job : Job} {stage : Stage} {rest : List Job} {move : Move} {progress : Progress} {router : Router}
      (at_ : s.monitor = .processing job stage rest)
      (moved : stage.step cfg job s.router move = some (progress,router)) :
      MonitorStep cfg s (.process move) { s with monitor := .resume job rest progress, router := router }
  | refusal {job : Job} {rest : List Job} {slot : Slot (Option String)} (at_ : s.monitor = .refuse job rest)
      (offered : (s.results job.index).offer (some "request context canceled") = .ok slot)
      (empty : (s.results job.index).value = none) :
      MonitorStep cfg s .send { s.setResult job.index slot with monitor := .close job rest }
  | sent {job : Job} {err : Option String} {rest : List Job} {slot : Slot (Option String)}
      (at_ : s.monitor = .send job err rest) (offered : (s.results job.index).offer err = .ok slot) :
      MonitorStep cfg s .send { s.setResult job.index slot with monitor := .close job rest }
  | closed {job : Job} {rest : List Job} {slot : Slot (Option String)} (at_ : s.monitor = .close job rest)
      (closing : (s.results job.index).close = .ok slot) :
      MonitorStep cfg s .close { s.setResult job.index slot with monitor := .next rest }
  | cleared {last : Bool} {results : Nat → Slot (Option String)} (at_ : s.monitor = .idle last)
      (cancelled : s.router.cancelled = true)
      (clearing : clear "router shutting down" s.queue s.results = .ok results) :
      MonitorStep cfg s .cancelled { s with monitor := .exited, queue := [], results := results }
  | left {last : Bool} (at_ : s.monitor = .idle last) : MonitorStep cfg s .closed { s with monitor := .exited }
  | crashed {move : MonitorMove} (panic : Panic) (answering : move = .send ∨ move = .close ∨ move = .cancelled)
      (broken : ¬ (s.waiting.Nodup ∧ ∀ i ∈ s.waiting, (s.results i).closed = false)) :
      MonitorStep cfg s move (s.crash (.channel panic))

theorem broken_of_closed (jobs : s.monitor.jobs = job :: rest)
    (closed : (s.results job.index).closed = true) :
    ¬ (s.waiting.Nodup ∧ ∀ i ∈ s.waiting, (s.results i).closed = false) := by
  rintro ⟨-,opened⟩
  have stays := opened job.index (by simp [waiting,jobs])
  rw [closed] at stays
  cases stays

theorem refuse_cases (at_ : s.monitor = .refuse job rest)
    (taken : s.refuse job rest = some next) : MonitorStep cfg s .send next := by
  unfold refuse at taken
  split at taken
  next panic offered =>
    cases taken
    exact .crashed panic (.inl rfl) (broken_of_closed (by rw [at_]; rfl) (Slot.closed_of_offer offered))
  next slot offered =>
    split at taken <;> cases taken
    next empty => exact .refusal at_ offered (not_isSome_iff_eq_none.mp empty)

theorem stepMonitor_cases {move : MonitorMove} (taken : s.stepMonitor cfg move = some next) :
    MonitorStep cfg s move next := by
  revert taken
  fun_cases stepMonitor cfg s move <;> intro taken
  case case8 at_ =>
    obtain ⟨⟨progress,router⟩,moved,rfl⟩ := map_eq_some_iff.mp taken
    exact .processed at_ moved
  case case10 at_ => exact refuse_cases at_ taken
  all_goals cases taken
  case case1.refl up last at_ wakes =>
    cases last with
    | true => cases wakes
    | false =>
      cases up with
      | false => cases wakes
      | true => exact .woken at_
  case case2.refl up last at_ calm =>
    refine .noted at_ ?_
    cases last <;> cases up <;> simp_all
  case case4.refl at_ => exact .rested at_
  case case5.refl at_ ended => exact .refused at_ (Bool.or_eq_true_iff.mp ended)
  case case6.refl at_ live =>
    obtain ⟨unexpired,uncancelled⟩ := Bool.or_eq_false_iff.mp (Bool.eq_false_iff.mpr live)
    exact .begun at_ unexpired uncancelled
  case case11.refl at_ panic offered =>
    exact .crashed panic (.inl rfl) (broken_of_closed (by rw [at_]; rfl) (Slot.closed_of_offer offered))
  case case12.refl at_ _ offered => exact .sent at_ offered
  case case14.refl at_ panic closing =>
    exact .crashed panic (.inr (.inl rfl)) (broken_of_closed (by rw [at_]; rfl) (Slot.closed_of_close closing))
  case case15.refl at_ _ closing => exact .closed at_ closing
  case case18.refl at_ _ panic clearing =>
    refine .crashed panic (.inr (.inr rfl)) ?_
    rintro ⟨once,opened⟩
    have waiting : s.waiting = s.queue.map Job.index := by simp [waiting,at_,Monitor.jobs]
    obtain ⟨results,cleared,_⟩ := clear_ok "router shutting down" s.queue s.results (waiting ▸ once)
      (fun i member => opened i (waiting ▸ member))
    rw [cleared] at clearing
    cases clearing
  case case19.refl at_ cancelled _ clearing => exact .cleared at_ (by simpa using cancelled) clearing
  case case21.refl at_ => exact .left at_

inductive ReaderStep (s : State) : ReaderMove → State → Prop
  | nothing (at_ : s.reader = .idle) : ReaderStep s (.receive none) s
  | received {response : Response} (at_ : s.reader = .idle) :
      ReaderStep s (.receive (some response)) { s with
        reader := .routing response
        router := { s.router with received := response :: s.router.received } }
  | routed {response : Response} {c : Nat} (at_ : s.reader = .routing response)
      (found : s.router.load response.id = some c) :
      ReaderStep s .route { s with reader := .sending c response, router := s.router.delete response.id }
  | unrouted {response : Response} (at_ : s.reader = .routing response) (absent : s.router.load response.id = none) :
      ReaderStep s .route { s with reader := .idle, router := s.router.delete response.id }
  | delivered {c : Nat} {response : Response} (at_ : s.reader = .sending c response) :
      ReaderStep s .deliver { s with reader := .closing c, router := s.router.offer c response }
  | closed {c : Nat} (at_ : s.reader = .closing c) :
      ReaderStep s .close { s with reader := .idle, router := s.router.close c }
  | left (at_ : s.reader = .idle) (cancelled : s.router.cancelled = true) :
      ReaderStep s .cancelled { s with reader := .exited }
  | undelivered {c : Nat} {response : Response} (at_ : s.reader = .sending c response)
      (cancelled : s.router.cancelled = true) : ReaderStep s .cancelled { s with reader := .closing c }

theorem stepReader_cases {move : ReaderMove} (taken : s.stepReader move = some next) : ReaderStep s move next := by
  revert taken
  fun_cases stepReader s move <;> rintro ⟨⟩
  case case1 at_ => exact .nothing at_
  case case2 at_ => exact .received at_
  case case4 at_ _ found => exact .routed at_ found
  case case5 at_ absent => exact .unrouted at_ absent
  case case7 at_ => exact .delivered at_
  case case9 at_ => exact .closed at_
  case case12 cancelled at_ => exact .left at_ (by simpa using cancelled)
  case case13 cancelled _ _ at_ => exact .undelivered at_ (by simpa using cancelled)

inductive StopStep (s : State) : StopMove → State → Prop
  | begun (at_ : s.stop = .unstarted) :
      StopStep s .cancel { s with stop := .ranging [] [], router := { s.router with cancelled := true } }
  | shown {key : Key} {visited : List Key} {channels : List Nat} {c : Nat} (at_ : s.stop = .ranging visited channels)
      (new : key ∉ visited) (found : s.router.pendingReqs.entries key = some c) :
      StopStep s (.visit key) { s with stop := .shown key c (key :: visited) channels }
  | removed {key : Key} {c d : Nat} {visited : List Key} {channels : List Nat}
      (at_ : s.stop = .shown key c visited channels) (found : s.router.pendingReqs.entries key = some d) :
      StopStep s .remove { s with
        stop := .ranging visited (channels ++ [c])
        router := { s.router with pendingReqs := s.router.pendingReqs.delete key } }
  | missing {key : Key} {c : Nat} {visited : List Key} {channels : List Nat}
      (at_ : s.stop = .shown key c visited channels) (absent : s.router.pendingReqs.entries key = none) :
      StopStep s .remove { s with stop := .ranging visited channels }
  | finished {visited : List Key} {channels : List Nat} (at_ : s.stop = .ranging visited channels) :
      StopStep s .finish { s with stop := .closing channels }
  | closed {c : Nat} {rest : List Nat} (at_ : s.stop = .closing (c :: rest)) :
      StopStep s .close { s with stop := .closing rest, router := s.router.close c }

theorem stepStop_cases {move : StopMove} (taken : s.stepStop move = some next) : StopStep s move next := by
  revert taken
  fun_cases stepStop s move <;> intro taken
  case case4 at_ new =>
    obtain ⟨c,found,rfl⟩ := map_eq_some_iff.mp taken
    exact .shown at_ new found
  all_goals cases taken
  case case1.refl at_ => exact .begun at_
  case case6.refl at_ _ found => exact .removed at_ found
  case case7.refl at_ absent => exact .missing at_ absent
  case case9.refl at_ => exact .finished at_
  case case11.refl at_ => exact .closed at_

structure Untouched (s next : State) : Prop where
  goroutines : next.router.goroutines = s.router.goroutines
  lines : next.router.lines = s.router.lines
  stdin : next.stdin = s.stdin
  monitor : next.monitor = s.monitor
  connected : next.connected = s.connected
  queue : next.queue = s.queue
  results : next.results = s.results
  expired : next.expired = s.expired
  inputs : next.inputs = s.inputs

theorem Untouched.of_same {router : Router} {reader : Reader} {stop : Stop} (same : Router.Same s.router router) :
    Untouched s { s with router := router, reader := reader, stop := stop } :=
  ⟨same.goroutines,same.lines,rfl,rfl,rfl,rfl,rfl,rfl,rfl⟩

theorem stepReader_untouched {move : ReaderMove} (taken : s.stepReader move = some next) :
    Untouched s next ∧ next.router.cancelled = s.router.cancelled ∧ next.stop = s.stop := by
  cases stepReader_cases taken with
  | @routed response | @unrouted response =>
    have same := delete_same (r := s.router) response.id
    exact ⟨.of_same same,same.cancelled,rfl⟩
  | @delivered c response =>
    have same := offer_same (r := s.router) c response
    exact ⟨.of_same same,same.cancelled,rfl⟩
  | @closed c =>
    have same := close_same (r := s.router) c
    exact ⟨.of_same same,same.cancelled,rfl⟩
  | nothing | received | left | undelivered => exact ⟨⟨rfl,rfl,rfl,rfl,rfl,rfl,rfl,rfl,rfl⟩,rfl,rfl⟩

theorem stepStop_untouched {move : StopMove} (taken : s.stepStop move = some next) :
    Untouched s next ∧ (s.router.cancelled = true → next.router.cancelled = true) := by
  cases stepStop_cases taken with
  | begun => exact ⟨⟨rfl,rfl,rfl,rfl,rfl,rfl,rfl,rfl,rfl⟩,fun _ => rfl⟩
  | @closed c rest =>
    have same := close_same (r := s.router) c
    exact ⟨.of_same same,fun ended => same.cancelled.trans ended⟩
  | shown | removed | missing | finished => exact ⟨⟨rfl,rfl,rfl,rfl,rfl,rfl,rfl,rfl,rfl⟩,id⟩

theorem step_inputs (taken : step cfg s label = some next) : s.inputs <+: next.inputs := by
  obtain ⟨_,way⟩ := taken_of_step taken
  cases way with
  | stdin moved =>
    cases stepStdin_cases moved with
    | malformed | accepted => exact prefix_append ..
    | _ => exact prefix_rfl
  | monitor moved => cases stepMonitor_cases moved <;> exact prefix_rfl
  | reader moved => exact (stepReader_untouched moved).1.inputs ▸ prefix_rfl
  | stop moved => exact (stepStop_untouched moved).1.inputs ▸ prefix_rfl
  | gateway | connection | expire | drain => exact prefix_rfl

theorem step_stdin (other : ∀ move, label ≠ .stdin move) (taken : step cfg s label = some next) :
    next.stdin = s.stdin ∧ next.inputs = s.inputs := by
  obtain ⟨_,way⟩ := taken_of_step taken
  cases way with
  | stdin moved => exact absurd rfl (other _)
  | monitor moved => cases stepMonitor_cases moved <;> exact ⟨rfl,rfl⟩
  | reader moved =>
    have same := (stepReader_untouched moved).1
    exact ⟨same.stdin,same.inputs⟩
  | stop moved =>
    have same := (stepStop_untouched moved).1
    exact ⟨same.stdin,same.inputs⟩
  | gateway | connection | expire | drain => exact ⟨rfl,rfl⟩

end steps

theorem run_inputs {s t : State} {labels : List Label} (executed : run (step cfg) s labels = some t) :
    s.inputs <+: t.inputs := by
  induction labels generalizing s with
  | nil => cases executed; exact prefix_rfl
  | cons label rest ih =>
    obtain ⟨next,taken,tail⟩ := run_cons_eq_some.mp executed
    exact (step_inputs taken).trans (ih tail)

end McpBridge.MessageRouter
