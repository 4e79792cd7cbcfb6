import McpBridge.Desks
import McpBridge.RouterPanics

/-!
The stdin loop and the goroutines of `processGatewayRequest` are the clerk and the workers of a desk (`Desks`), while
the connection is up and the router is not stopped. A message is dropped only where `attemptDirectWithRetries` makes no
attempt.
-/
namespace McpBridge.MessageRouter
open Values Channels Pending Runs Desks Router Function

def Stage.owes : Stage → Bool
  | .cleanup _ (.finish none) => false
  | .close _ _ (.finish none) => false
  | _ => true

/-- The message that the stdin loop works on, and whether it still owes the answer. -/
def Stdin.task : Stdin → Option (Nat × Bool)
  | .idle => none
  | .exited => none
  | .limiting job => some (job.index,true)
  | .enqueue job => some (job.index,true)
  | .queued job => some (job.index,true)
  | .processing job stage => some (job.index,stage.owes)
  | .report index _ _ => some (index,true)

def GatewayPc.live : GatewayPc → Bool
  | .done => false
  | _ => true

def Goroutine.task (g : Goroutine) : Nat × Bool := (g.job.index,g.pc.live)

def State.desk (s : State) : Desk where
  accepted := s.inputs.length
  clerk := s.stdin.task
  workers c := (s.router.goroutines c).map Goroutine.task
  answers := s.router.lines.map Line.index

def Progress.task (job : Job) : Progress → Option (Nat × Bool)
  | .inside stage => some (job.index,stage.owes)
  | .returned none => none
  | .returned (some _) => some (job.index,true)

@[simp] theorem Stdin.resume_task (job : Job) (progress : Progress) :
    (Stdin.resume job progress).task = progress.task job := by
  rcases progress with stage | _ | err <;> rfl

/-! ### Nothing but requests and responses -/

def Label.Running : Label → Prop
  | .connection _ => False
  | .stop _ => False
  | _ => True

def GatewayPc.quits : GatewayPc → Bool
  | .cleanup .quit => true
  | .close _ .quit => true
  | _ => false

structure Quiet (s : State) : Prop where
  connected : s.connected = true
  uncancelled : s.router.cancelled = false
  unstopped : s.stop = .unstarted
  queue : s.queue = []
  monitor : s.monitor.jobs = []
  unqueued : ∀ job, s.stdin ≠ .enqueue job ∧ s.stdin ≠ .queued job
  staying : ∀ c g, s.router.goroutines c = some g → g.pc.quits = false

namespace Router
variable {r : Router}

@[simp] theorem store_slots (id : Any) : (r.store id).pendingReqs.slots = r.pendingReqs.slots := by
  unfold store
  split <;> rfl

@[simp] theorem delete_slots (id : Any) : (r.delete id).pendingReqs.slots = r.pendingReqs.slots := by
  unfold delete
  split <;> rfl

@[simp] theorem close_entries (c : Nat) : (r.close c).pendingReqs.entries = r.pendingReqs.entries := by
  unfold close Table.close
  cases (r.pendingReqs.slots c).close <;> rfl

theorem close_value (c d : Nat) : ((r.close c).pendingReqs.slots d).value = (r.pendingReqs.slots d).value := by
  unfold close Table.close
  cases closed : (r.pendingReqs.slots c).close with
  | error panic => rfl
  | ok slot =>
    simp only [Except.map,Table.setSlot_slots]
    split
    next same => rw [Slot.value_of_close closed,same]
    next => rfl

theorem close_slots_of_ne {c d : Nat} (other : d ≠ c) : (r.close c).pendingReqs.slots d = r.pendingReqs.slots d := by
  unfold close Table.close
  cases (r.pendingReqs.slots c).close with
  | error panic => rfl
  | ok slot => simp only [Except.map,Table.setSlot_slots,if_neg other]

end Router

/-! ### Each step is a step of the desk -/

section refinement
variable {cfg : Config} {job : Job} {r next : Router}

inductive Stage.Effect (job : Job) (r next : Router) (owes : Bool) (after : Option (Nat × Bool)) : Prop where
  | silent (task : after = some (job.index,owes)) (goroutines : next.goroutines = r.goroutines)
      (lines : next.lines = r.lines)
  | answer (owed : owes = true) (task : after = none ∨ after = some (job.index,false))
      (goroutines : next.goroutines = r.goroutines) (response : Option Response)
      (lines : next.lines = ⟨job.index,response⟩ :: r.lines)
  | leave (paid : owes = false) (task : after = none) (goroutines : next.goroutines = r.goroutines)
      (lines : next.lines = r.lines)
  | delegate (owed : owes = true) (task : after = none)
      (goroutines : next.goroutines = update r.goroutines r.pendingReqs.fresh (some ⟨job,.send⟩))
      (lines : next.lines = r.lines)

theorem afterCleanup_effect (cfg : Config) (job : Job) (same : Same r next) (mode : Mode) (after : DirectAfter) :
    Stage.Effect job r next (Stage.cleanup mode after).owes ((afterCleanup cfg mode after).task job) := by
  rcases after with response | _ | err
  · exact .silent rfl same.goroutines same.lines
  · refine .leave rfl ?_ same.goroutines same.lines
    cases mode <;> rfl
  · refine .silent ?_ same.goroutines same.lines
    cases mode with
    | single => rfl
    | attempt n =>
      simp only [afterCleanup,finish,attemptDirectWithRetries]
      repeat' split
      all_goals rfl

theorem Stage.step_effect {stage : Stage} {move : Move} {progress : Progress} (uncancelled : r.cancelled = false)
    (hashable : job.request.id.Hashable) (taken : stage.step cfg job r move = some (progress,next)) :
    Effect job r next stage.owes (progress.task job) := by
  cases Stage.step_cases taken with
  | stored mode =>
    have same := store_same (r := r) job.request.id
    exact .silent rfl same.goroutines same.lines
  | answered mode outcome =>
    cases outcome with
    | noClient | failed | response => exact .silent (by cases mode <;> rfl) rfl rfl
  | responded mode response room =>
    refine .answer rfl ?_ rfl (some response) rfl
    cases mode with
    | single => exact .inl rfl
    | attempt n => exact .inr rfl
  | interrupted mode response cancelled | abandoned n cancelled =>
    rw [uncancelled] at cancelled
    cases cancelled
  | removed mode after found =>
    have same := delete_same (r := r) job.request.id
    refine .silent ?_ same.goroutines same.lines
    rcases after with response | _ | err <;> rfl
  | missing mode after absent => exact afterCleanup_effect cfg job (delete_same (r := r) job.request.id) mode after
  | closed mode c after =>
    have effect := afterCleanup_effect cfg job (close_same (r := r) c) mode after
    rcases after with response | _ | err <;> exact effect
  | retried n => exact .silent rfl rfl rfl
  | handed =>
    obtain ⟨k,key⟩ := Option.isSome_iff_exists.mp hashable
    refine .delegate rfl rfl ?_ ?_ <;> simp [processGatewayRequest,key]

inductive Goroutine.Effect (g : Goroutine) (r next : Router) (pc : GatewayPc) : Prop where
  | silent (before : g.pc.live = true) (after : pc.live = true) (lines : next.lines = r.lines)
  | finish (before : g.pc.live = true) (after : pc.live = false) (response : Option Response)
      (lines : next.lines = ⟨g.job.index,response⟩ :: r.lines)

theorem Goroutine.step_effect {c : Nat} {g : Goroutine} {pc : GatewayPc} {move : GatewayMove}
    (uncancelled : r.cancelled = false) (staying : g.pc.quits = false) (taken : g.step cfg c r move = some (pc,next)) :
    Effect g r next pc ∧ pc.quits = false ∧ next.cancelled = r.cancelled := by
  have stopped : r.cancelled = true → False := by
    rw [uncancelled]
    exact nofun
  have leaves : ∀ {after : GatewayAfter} {same : Router}, Same r same → (GatewayPc.cleanup after).quits = false →
      g.pc.live = true → Effect g r same after.pc ∧ after.pc.quits = false ∧ same.cancelled = r.cancelled := by
    intro after same kept stays live
    cases after with
    | quit => cases stays
    | report | timedOut => exact ⟨.silent live rfl kept.lines,rfl,kept.cancelled⟩
  cases Goroutine.step_cases taken with
  | sent at_ | failed at_ | received at_ | timedOut at_ | stuck at_ | overdue at_ =>
    exact ⟨.silent (by rw [at_]; rfl) rfl rfl,rfl,rfl⟩
  | quit _ cancelled | interrupted _ cancelled | silenced _ cancelled | gaveUp _ cancelled =>
    exact (stopped cancelled).elim
  | delivered at_ | reported at_ => exact ⟨.finish (by rw [at_]; rfl) rfl _ rfl,rfl,rfl⟩
  | @removed after d at_ found =>
    have same := delete_same (r := r) g.job.request.id
    refine ⟨.silent (by rw [at_]; rfl) rfl same.lines,?_,same.cancelled⟩
    rw [at_] at staying
    cases after <;> first | rfl | cases staying
  | @missing after at_ absent =>
    rw [at_] at staying
    exact leaves (delete_same (r := r) g.job.request.id) staying (by rw [at_]; rfl)
  | @closed d after at_ =>
    rw [at_] at staying
    refine leaves (close_same (r := r) d) ?_ (by rw [at_]; rfl)
    cases after <;> first | rfl | cases staying

end refinement

/-! ### The messages at hand -/

def Job.Listed (job : Job) (inputs : List Data) : Prop :=
  inputs[job.index]? = some job.data ∧ job.data.decode = .ok job.request

def Stdin.job : Stdin → Option Job
  | .limiting job => some job
  | .processing job _ => some job
  | _ => none

structure Known (s : State) : Prop where
  stdin : ∀ job, s.stdin.job = some job → job.Listed s.inputs
  report : ∀ index data err, s.stdin = .report index data err → s.inputs[index]? = some data
  goroutines : ∀ c g, s.router.goroutines c = some g → g.job.Listed s.inputs

theorem Job.Listed.append {job : Job} {inputs : List Data} (listed : job.Listed inputs) (more : List Data) :
    job.Listed (inputs ++ more) := by
  refine ⟨?_,listed.2⟩
  have lt : job.index < inputs.length := (List.getElem?_eq_some_iff.mp listed.1).1
  rw [List.getElem?_append_left lt]
  exact listed.1

/-- The request is for a direct server, with fallback and a negative number of retries: no attempt is made. -/
def Loses (cfg : Config) (req : Request) : Prop :=
  determineRoutingTarget cfg req = true ∧ cfg.direct.fallback.enabled = true ∧ cfg.direct.fallback.maxRetries < 0

theorem processStdinMessageDirect_cases (cfg : Config) (req : Request) :
    (Loses cfg req ∧ processStdinMessageDirect cfg req = .returned none) ∨
      (¬ Loses cfg req ∧ ∃ stage, processStdinMessageDirect cfg req = .inside stage ∧ stage.owes = true) := by
  unfold Loses processStdinMessageDirect processRequestWithFallback
  cases target : determineRoutingTarget cfg req with
  | false => exact .inr ⟨by simp,.gateway,rfl,rfl⟩
  | true =>
    cases enabled : cfg.direct.fallback.enabled with
    | false => exact .inr ⟨by simp,.setup .single,rfl,rfl⟩
    | true =>
      by_cases retries : 0 ≤ cfg.direct.fallback.maxRetries
      · refine .inr ⟨fun loses => absurd loses.2.2 (Int.not_lt.mpr retries),.setup (.attempt 0),?_,rfl⟩
        simp [retries]
      · exact .inl ⟨⟨rfl,rfl,Int.not_le.mp retries⟩,by simp [retries]⟩

/-- For every request to be answered, no step begins one that is lost or routes a response with an unhashable
    identifier. -/
def Settles (cfg : Config) (s : State) : Label → Prop
  | .stdin (.limit none) => ∀ job, s.stdin = .limiting job → ¬ Loses cfg job.request
  | .reader .route => ∀ response, s.reader = .routing response → response.id.Hashable
  | _ => True

section ground
variable {cfg : Config} {s next : State} {router : Router}

structure Ground (s : State) : Prop extends Quiet s, Known s

theorem Ground.monitor_held (ground : Ground s) : s.monitor.held = [] := by
  have idle := ground.monitor
  cases at_ : s.monitor <;> first | rfl | (rw [at_] at idle; cases idle)

theorem Ground.frame (ground : Ground s) (connected : next.connected = s.connected)
    (cancelled : next.router.cancelled = s.router.cancelled) (stop : next.stop = s.stop) (queue : next.queue = s.queue)
    (monitor : next.monitor.jobs = s.monitor.jobs) (stdin : next.stdin = s.stdin)
    (goroutines : next.router.goroutines = s.router.goroutines) (inputs : next.inputs = s.inputs) : Ground next := by
  refine ⟨⟨?_,?_,?_,?_,?_,?_,?_⟩,⟨?_,?_,?_⟩⟩
  · rw [connected]; exact ground.connected
  · rw [cancelled]; exact ground.uncancelled
  · rw [stop]; exact ground.unstopped
  · rw [queue]; exact ground.queue
  · rw [monitor]; exact ground.monitor
  · rw [stdin]; exact ground.unqueued
  · rw [goroutines]; exact ground.staying
  · rw [stdin,inputs]; exact ground.toKnown.stdin
  · rw [stdin,inputs]; exact ground.report
  · rw [goroutines,inputs]; exact ground.goroutines

/-- A request has returned to the stdin loop or is still there, with the same goroutines. -/
theorem Ground.resume {job : Job} (ground : Ground s) (progress : Progress)
    (listed : job.Listed s.inputs) (cancelled : router.cancelled = s.router.cancelled)
    (goroutines : ∀ c g, router.goroutines c = some g → s.router.goroutines c = some g ∨ g = ⟨job,.send⟩) :
    Ground { s with stdin := .resume job progress, router := router } := by
  refine ⟨⟨ground.connected,cancelled.trans ground.uncancelled,ground.unstopped,ground.queue,ground.monitor,?_,?_⟩,
    ⟨?_,?_,?_⟩⟩
  · intro other
    rcases progress with stage | _ | err <;> exact ⟨nofun,nofun⟩
  · intro c g found
    rcases goroutines c g found with old | rfl
    · exact ground.staying c g old
    · rfl
  · intro other same
    rcases progress with stage | _ | err <;> cases same
    exact listed
  · intro index data err same
    rcases progress with stage | _ | err <;> cases same
    exact listed.1
  · intro c g found
    rcases goroutines c g found with old | rfl
    · exact ground.goroutines c g old
    · exact listed

inductive StdinTaken (cfg : Config) (s : State) : StdinMove → State → Prop
  | malformed {data : Data} {cause : String} (at_ : s.stdin = .idle) (decoded : data.decode = .error cause) :
      StdinTaken cfg s (.read data) { s with
        stdin := .report s.inputs.length data ("invalid JSON: " ++ cause), inputs := s.inputs ++ [data] }
  | accepted {data : Data} {request : Request} (at_ : s.stdin = .idle) (decoded : data.decode = .ok request) :
      StdinTaken cfg s (.read data) { s with
        stdin := .limiting ⟨s.inputs.length,data,request⟩, inputs := s.inputs ++ [data] }
  | limited {job : Job} {cause : String} (at_ : s.stdin = .limiting job) :
      StdinTaken cfg s (.limit (some cause)) { s with
        stdin := .report job.index job.data ("rate limit exceeded: " ++ cause) }
  | begun {job : Job} (at_ : s.stdin = .limiting job) :
      StdinTaken cfg s (.limit none) { s with stdin := .resume job (processStdinMessageDirect cfg job.request) }
  | processed {job : Job} {stage : Stage} {move : Move} {progress : Progress} {router : Router}
      (at_ : s.stdin = .processing job stage) (moved : stage.step cfg job s.router move = some (progress,router)) :
      StdinTaken cfg s (.process move) { s with stdin := .resume job progress, router := router }
  | reported {index : Nat} {data : Data} {err : String} (at_ : s.stdin = .report index data err) :
      StdinTaken cfg s .report { s with
        stdin := .idle, router := s.router.write index (some (errorResponse data.id err)) }

variable {move : StdinMove}

theorem Ground.stdin_taken (ground : Ground s) (taken : s.stepStdin cfg move = some next) :
    StdinTaken cfg s move next := by
  cases stepStdin_cases taken with
  | malformed at_ decoded => exact .malformed at_ decoded
  | accepted at_ decoded => exact .accepted at_ decoded
  | limited at_ => exact .limited at_
  | begun at_ up => exact .begun at_
  | parked at_ down =>
    rw [ground.connected] at down
    cases down
  | overflown at_ | enqueued at_ => exact absurd at_ (ground.unqueued _).1
  | resulted at_ | timedOut at_ => exact absurd at_ (ground.unqueued _).2
  | processed at_ moved => exact .processed at_ moved
  | reported at_ room => exact .reported at_
  | silenced at_ cancelled | left at_ cancelled =>
    rw [ground.uncancelled] at cancelled
    cases cancelled

theorem Ground.read {stdin : Stdin} {data : Data} (ground : Ground s)
    (unqueued : ∀ job, stdin ≠ .enqueue job ∧ stdin ≠ .queued job)
    (job : ∀ job, stdin.job = some job → job.Listed (s.inputs ++ [data]))
    (report : ∀ index other err, stdin = .report index other err → (s.inputs ++ [data])[index]? = some other) :
    Ground { s with stdin := stdin, inputs := s.inputs ++ [data] } :=
  ⟨⟨ground.connected,ground.uncancelled,ground.unstopped,ground.queue,ground.monitor,unqueued,ground.staying⟩,
    ⟨job,report,fun c g found => (ground.goroutines c g found).append [data]⟩⟩

theorem stepStdin_ground (ground : Ground s) (taken : s.stepStdin cfg move = some next) : Ground next := by
  have new : ∀ data, (s.inputs ++ [data])[s.inputs.length]? = some data := by simp
  cases ground.stdin_taken taken with
  | @malformed data cause at_ decoded =>
    refine ground.read (fun _ => ⟨nofun,nofun⟩) (fun job same => by cases same) (fun index other err same => ?_)
    cases same
    exact new data
  | @accepted data request at_ decoded =>
    refine ground.read (fun _ => ⟨nofun,nofun⟩) (fun job same => ?_) (fun index other err same => by cases same)
    cases same
    exact ⟨new data,decoded⟩
  | @limited job cause at_ =>
    have listed := ground.toKnown.stdin job (by rw [at_]; rfl)
    exact ground.resume (.returned (some _)) listed rfl (fun c g found => .inl found)
  | @begun job at_ =>
    have listed := ground.toKnown.stdin job (by rw [at_]; rfl)
    exact ground.resume _ listed rfl (fun c g found => .inl found)
  | @processed job stage _ progress router at_ moved =>
    have listed := ground.toKnown.stdin job (by rw [at_]; rfl)
    exact ground.resume progress listed (Stage.step_outputs moved).1 fun c g => Stage.goroutine_of_step moved
  | reported at_ =>
    exact ⟨⟨ground.connected,ground.uncancelled,ground.unstopped,ground.queue,ground.monitor,
      fun _ => ⟨nofun,nofun⟩,ground.staying⟩,⟨nofun,nofun,ground.goroutines⟩⟩

open State

theorem desk_congr (inputs : next.inputs = s.inputs) (stdin : next.stdin.task = s.stdin.task)
    (goroutines : next.router.goroutines = s.router.goroutines) (lines : next.router.lines = s.router.lines) :
    next.desk = s.desk := by
  simp [desk,inputs,stdin,goroutines,lines]

theorem stepStdin_desk (spawned : s.router.Spawned) (ground : Ground s)
    (hashable : ∀ job, s.stdin.job = some job → job.request.id.Hashable) (taken : s.stepStdin cfg move = some next) :
    (Settles cfg s (.stdin move) ∧ (next.desk = s.desk ∨ Step s.desk next.desk)) ∨
      (¬ Settles cfg s (.stdin move) ∧ Drop s.desk next.desk) := by
  have accept : ∀ {stdin : Stdin} {data : Data}, s.stdin = .idle → stdin.task = some (s.inputs.length,true) →
      Step s.desk (desk { s with stdin := stdin, inputs := s.inputs ++ [data] }) := by
    intro stdin data at_ task
    have step := Step.accept (l := s.desk) (by simp only [desk,at_,Stdin.task])
    simp only [desk,List.length_append,List.length_singleton,task] at step ⊢
    exact step
  cases ground.stdin_taken taken with
  | malformed at_ | accepted at_ => exact .inl ⟨trivial,.inr (accept at_ rfl)⟩
  | limited at_ => exact .inl ⟨trivial,.inl (desk_congr rfl (by rw [at_]; rfl) rfl rfl)⟩
  | @begun job at_ =>
    have clerk : s.desk.clerk = some (job.index,true) := by simp only [desk,at_,Stdin.task]
    rcases processStdinMessageDirect_cases cfg job.request with ⟨loses,returned⟩ | ⟨fine,stage,inside,owes⟩
    · refine .inr ⟨fun settles => settles job at_ loses,?_⟩
      rw [returned]
      exact Drop.drop clerk
    · refine .inl ⟨fun other same => ?_,.inl (desk_congr rfl ?_ rfl rfl)⟩
      · rw [at_] at same
        cases same
        exact fine
      · rw [inside,at_]
        simp [Stdin.resume,Stdin.task,owes]
  | @processed job stage _ progress router at_ moved =>
    have clerk : s.desk.clerk = some (job.index,stage.owes) := by simp only [desk,at_,Stdin.task]
    refine .inl ⟨trivial,?_⟩
    cases Stage.step_effect ground.uncancelled (hashable job (by rw [at_]; rfl)) moved with
    | silent task goroutines lines =>
      exact .inl (desk_congr rfl (by rw [Stdin.resume_task,task]; exact clerk.symm) goroutines lines)
    | answer owed task goroutines response lines =>
      have step := Step.answer (l := s.desk) (by rw [clerk,owed]) task
      right
      simp only [desk,Stdin.resume_task,goroutines,lines,List.map_cons] at step ⊢
      exact step
    | leave paid task goroutines lines =>
      have step := Step.leave (l := s.desk) (by rw [clerk,paid])
      right
      simp only [desk,Stdin.resume_task,task,goroutines,lines] at step ⊢
      exact step
    | delegate owed task goroutines lines =>
      have unused : s.router.goroutines s.router.pendingReqs.fresh = none := by
        cases found : s.router.goroutines s.router.pendingReqs.fresh with
        | none => rfl
        | some g => exact absurd (spawned _ g found) (Nat.lt_irrefl _)
      have step := Step.delegate (l := s.desk) (c := s.router.pendingReqs.fresh) (by rw [clerk,owed])
        (by simp [desk,unused])
      have workers : (fun c => (router.goroutines c).map Goroutine.task) =
          update s.desk.workers s.router.pendingReqs.fresh (some (job.index,true)) := by
        funext c
        simp only [goroutines,update_apply,desk]
        split <;> rfl
      right
      simp only [desk,Stdin.resume_task,task,lines] at step workers ⊢
      rw [workers]
      exact step
  | @reported index data err at_ =>
    have step := Step.answer (l := s.desk) (i := index) (by simp only [desk,at_,Stdin.task]) (.inl rfl)
    exact .inl ⟨trivial,.inr step⟩

theorem stepMonitor_ground {move : MonitorMove} (ground : Ground s) (taken : s.stepMonitor cfg move = some next) :
    Ground next ∧ next.desk = s.desk ∧ next.router = s.router ∧ next.stdin = s.stdin ∧ next.reader = s.reader ∧
      next.inputs = s.inputs := by
  have idle := ground.monitor
  -- Nothing is ever queued, so the moves of the monitor on a request do not occur.
  have nobody : ∀ {job : Job} {rest : List Job}, s.monitor.jobs = job :: rest → False := by
    intro job rest jobs
    rw [idle] at jobs
    cases jobs
  cases stepMonitor_cases taken with
  | woken at_ =>
    refine ⟨ground.frame rfl rfl rfl ground.queue.symm ?_ rfl rfl rfl,rfl,rfl,rfl,rfl,rfl⟩
    rw [idle,ground.queue]
    rfl
  | noted at_ | rested at_ | left at_ =>
    exact ⟨ground.frame rfl rfl rfl rfl idle.symm rfl rfl rfl,rfl,rfl,rfl,rfl,rfl⟩
  | refused at_ | begun at_ | processed at_ | refusal at_ | sent at_ | closed at_ =>
    exact (nobody (by rw [at_]; rfl)).elim
  | cleared at_ cancelled clearing =>
    rw [ground.uncancelled] at cancelled
    cases cancelled
  | crashed panic answering broken =>
    have empty : s.waiting = [] := by rw [waiting,idle,ground.queue]; rfl
    exact absurd ⟨by rw [empty]; exact List.nodup_nil,by rw [empty]; exact List.forall_mem_nil _⟩ broken

theorem stepReader_received {move : ReaderMove} (taken : s.stepReader move = some next) :
    ∀ x ∈ s.router.received, x ∈ next.router.received := by
  intro x member
  cases stepReader_cases taken with
  | received => exact List.mem_cons_of_mem _ member
  | @routed response | @unrouted response => exact (delete_same (r := s.router) response.id).received ▸ member
  | @delivered c response => exact (offer_same (r := s.router) c response).received ▸ member
  | @closed c => exact (close_same (r := s.router) c).received ▸ member
  | nothing | left | undelivered => exact member

theorem stepReader_ground {move : ReaderMove} (ground : Ground s) (taken : s.stepReader move = some next) :
    Ground next ∧ next.desk = s.desk := by
  obtain ⟨same,cancelled,stop⟩ := stepReader_untouched taken
  exact ⟨ground.frame same.connected cancelled stop same.queue (by rw [same.monitor]) same.stdin same.goroutines
    same.inputs,desk_congr same.inputs (by rw [same.stdin]) same.goroutines same.lines⟩

theorem stepGateway_ground {c : Nat} {move : GatewayMove} {g : Goroutine} {pc : GatewayPc}
    (ground : Ground s) (found : s.router.goroutines c = some g)
    (stepped : g.step cfg c s.router move = some (pc,router)) : Ground { s with router := router.setPc c g pc } ∧
      (desk { s with router := router.setPc c g pc } = s.desk ∨
        Step s.desk (desk { s with router := router.setPc c g pc })) := by
  obtain ⟨effect,stays,cancelled⟩ := Goroutine.step_effect ground.uncancelled (ground.staying c g found) stepped
  obtain ⟨_,others⟩ := Goroutine.step_goroutines stepped
  constructor
  · refine ⟨⟨ground.connected,cancelled.trans ground.uncancelled,ground.unstopped,ground.queue,ground.monitor,
      ground.unqueued,?_⟩,⟨ground.toKnown.stdin,ground.report,?_⟩⟩
    · intro d g' listed
      rcases goroutine_of_setPc others listed with ⟨_,rfl⟩ | ⟨_,old⟩
      · exact stays
      · exact ground.staying d g' old
    · intro d g' listed
      rcases goroutine_of_setPc others listed with ⟨_,rfl⟩ | ⟨_,old⟩
      · exact ground.goroutines c g found
      · exact ground.goroutines d g' old
  · have worker : s.desk.workers c = some (g.job.index,g.pc.live) := by
      simp [desk,found,Goroutine.task]
    have workers : (fun d => ((router.setPc c g pc).goroutines d).map Goroutine.task) =
        update s.desk.workers c (some (g.job.index,pc.live)) := by
      funext d
      simp only [setPc,others,update_apply,desk]
      split <;> rfl
    cases effect with
    | silent before after lines =>
      left
      simp only [desk] at workers worker ⊢
      rw [workers,after,← before,← worker,update_eq_self]
      simp [setPc,lines]
    | finish before after response lines =>
      right
      have step := Step.finish (l := s.desk) (i := g.job.index) (c := c) (by rw [worker,before])
      simp only [desk] at workers step ⊢
      rw [workers,after]
      simp only [setPc,lines,List.map_cons]
      exact step

end ground

end McpBridge.MessageRouter
