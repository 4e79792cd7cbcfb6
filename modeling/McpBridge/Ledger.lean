import Mathlib.Algebra.Order.BigOperators.Group.Finset
import McpBridge.RouterDesk

/-!
How many answers a message can get: the ledger counts the lines written for it and the answers still due from the stdin
loop, the monitor, and the goroutines of `processGatewayRequest`.
-/
namespace McpBridge.MessageRouter
open Values Channels Pending Runs Desks Function List Nat

/-- One answer for message `i`, if it is due and the message is this one. -/
def due (index i : Nat) (owes : Bool) : Nat := if index = i ∧ owes = true then 1 else 0

def GatewayPc.owes (pc : GatewayPc) : Bool := pc.live && !pc.quits

def Progress.owes : Progress → Bool
  | .inside stage => stage.owes
  | .returned err => err.isSome

def Router.dueAt (r : Router) (i c : Nat) : Nat := (r.goroutines c).elim 0 fun g => due g.job.index i g.pc.owes

def Router.delegated (r : Router) (i : Nat) : Nat := ∑ c ∈ Finset.range r.pendingReqs.fresh, r.dueAt i c

def Router.written (r : Router) (i : Nat) : Nat := (r.lines.map Line.index).count i

def Router.settled (r : Router) (i : Nat) : Nat := r.written i + r.delegated i

open Router

section routers
variable {r next : Router} {i : Nat}

@[simp] theorem due_false (index i : Nat) : due index i false = 0 := by
  simp [due]

theorem due_le {index i : Nat} {owes more : Bool} (fewer : owes = true → more = true) :
    due index i owes ≤ due index i more := by
  unfold due
  split
  next both => rw [if_pos ⟨both.1,fewer both.2⟩]
  next => exact Nat.zero_le _

theorem Router.dueAt_none {c : Nat} (absent : r.goroutines c = none) : r.dueAt i c = 0 := by
  rw [dueAt,absent]
  rfl

theorem Router.delegated_same (spawned : r.Spawned) (goroutines : next.goroutines = r.goroutines)
    (later : r.pendingReqs.fresh ≤ next.pendingReqs.fresh) : next.delegated i = r.delegated i := by
  have each (c : Nat) : next.dueAt i c = r.dueAt i c := by rw [dueAt,dueAt,goroutines]
  unfold delegated
  rw [Finset.sum_congr rfl fun c _ => each c]
  refine (Finset.sum_subset (Finset.range_mono later) fun c _ outside => dueAt_none ?_).symm
  cases found : r.goroutines c with
  | none => rfl
  | some g => exact absurd (Finset.mem_range.mpr (spawned c g found)) outside

theorem Router.delegated_move {router : Router} {c : Nat} {g : Goroutine} {pc : GatewayPc} (spawned : r.Spawned)
    (found : r.goroutines c = some g) (goroutines : router.goroutines = r.goroutines)
    (later : r.pendingReqs.fresh ≤ router.pendingReqs.fresh) :
    (router.setPc c g pc).delegated i + due g.job.index i g.pc.owes = r.delegated i + due g.job.index i pc.owes := by
  have there : c ∈ Finset.range router.pendingReqs.fresh :=
    Finset.mem_range.mpr (lt_of_lt_of_le (spawned c g found) later)
  have before : router.dueAt i c = due g.job.index i g.pc.owes := by rw [dueAt,goroutines,found]; rfl
  have after : (router.setPc c g pc).dueAt i c = due g.job.index i pc.owes := by simp [dueAt,setPc]
  have others : ∑ d ∈ (Finset.range router.pendingReqs.fresh).erase c, (router.setPc c g pc).dueAt i d =
      ∑ d ∈ (Finset.range router.pendingReqs.fresh).erase c, router.dueAt i d := by
    refine Finset.sum_congr rfl fun d listed => ?_
    simp [dueAt,setPc,update_of_ne (Finset.ne_of_mem_erase listed)]
  rw [← delegated_same spawned goroutines later]
  have old := Finset.add_sum_erase (Finset.range router.pendingReqs.fresh) (router.dueAt i) there
  have new := Finset.add_sum_erase (Finset.range router.pendingReqs.fresh) ((router.setPc c g pc).dueAt i) there
  have fresh : (router.setPc c g pc).pendingReqs.fresh = router.pendingReqs.fresh := rfl
  unfold delegated
  rw [fresh]
  omega

theorem Router.delegated_spawn (job : Job) :
    (r.processGatewayRequest job).delegated i ≤ r.delegated i + due job.index i true := by
  unfold processGatewayRequest
  split
  next => exact Nat.le_add_right _ _
  next k key =>
    unfold delegated
    rw [show (r.pendingReqs.store k).fresh = r.pendingReqs.fresh + 1 from rfl,Finset.sum_range_succ]
    have old : ∀ c ∈ Finset.range r.pendingReqs.fresh, dueAt { r with
        pendingReqs := r.pendingReqs.store k
        goroutines := update r.goroutines r.pendingReqs.fresh (some ⟨job,.send⟩) } i c = r.dueAt i c := by
      intro c listed
      simp [dueAt,update_of_ne (Nat.ne_of_lt (Finset.mem_range.mp listed))]
    rw [Finset.sum_congr rfl old]
    refine Nat.le_of_eq (congrArg (_ + ·) ?_)
    simp [dueAt]
    rfl

theorem Router.written_write (index : Nat) (response : Option Response) :
    (r.write index response).written i = r.written i + due index i true := by
  unfold written write due
  rw [map_cons,List.count_cons]
  simp

theorem Router.settled_same (spawned : r.Spawned) (lines : next.lines = r.lines)
    (goroutines : next.goroutines = r.goroutines) (later : r.pendingReqs.fresh ≤ next.pendingReqs.fresh) :
    next.settled i = r.settled i := by
  rw [settled,settled,delegated_same spawned goroutines later,written,lines]
  rfl

theorem Router.settled_write (index : Nat) (response : Option Response) :
    (r.write index response).settled i = r.settled i + due index i true := by
  have same : (r.write index response).delegated i = r.delegated i := rfl
  rw [settled,settled,written_write,same]
  omega

end routers

section steps
variable {cfg : Config} {r next : Router} {move : GatewayMove}

theorem afterCleanup_owes (cfg : Config) (mode : Mode) (after : DirectAfter) :
    (afterCleanup cfg mode after).owes = (Stage.cleanup mode after).owes := by
  rcases after with response | _ | err
  · rfl
  · cases mode <;> rfl
  · cases mode with
    | single => rfl
    | attempt n =>
      simp only [afterCleanup,finish,attemptDirectWithRetries]
      repeat' split
      all_goals rfl

/-- A step of a request adds no answer to those that are written or due. -/
theorem Stage.step_settled {job : Job} {stage : Stage} {move : Move} {progress : Progress} (spawned : r.Spawned)
    (taken : stage.step cfg job r move = some (progress,next)) (i : Nat) :
    next.settled i + due job.index i progress.owes ≤ r.settled i + due job.index i stage.owes := by
  obtain ⟨later,_⟩ := Stage.step_goroutines taken
  cases Stage.step_cases taken with
  | stored mode =>
    have same := store_same (r := r) job.request.id
    exact Nat.le_of_eq (congrArg (· + _) (settled_same spawned same.lines same.goroutines later.fresh))
  | answered mode outcome =>
    have same : (r.answered outcome).settled i = r.settled i := by cases outcome <;> rfl
    have owes : (afterAnswer mode outcome).owes = true := by cases outcome <;> cases mode <;> rfl
    rw [same,owes]
    exact le_refl _
  | responded mode response room =>
    have owes : (afterRespond mode none).owes = false := by cases mode <;> rfl
    rw [settled_write,owes,due_false]
    exact le_refl _
  | interrupted mode response cancelled =>
    have owes : (afterRespond mode (some "context canceled")).owes = true := by cases mode <;> rfl
    rw [owes]
    exact le_refl _
  | removed mode after found =>
    have same := delete_same (r := r) job.request.id
    rw [settled_same spawned same.lines same.goroutines later.fresh]
    exact Nat.add_le_add_left (due_le fun owes => by rcases after with _ | _ | _ <;> exact owes) _
  | missing mode after absent =>
    have same := delete_same (r := r) job.request.id
    rw [settled_same spawned same.lines same.goroutines later.fresh,afterCleanup_owes]
  | closed mode c after =>
    have same := close_same (r := r) c
    rw [settled_same spawned same.lines same.goroutines later.fresh,afterCleanup_owes]
    exact Nat.add_le_add_left (due_le fun owes => by rcases after with _ | _ | _ <;> exact owes) _
  | retried | abandoned => exact le_refl _
  | handed =>
    have same : (r.processGatewayRequest job).written i = r.written i := by
      rw [written,processGatewayRequest_lines]
      rfl
    have spawn := delegated_spawn (r := r) (i := i) job
    simp only [settled,same,Progress.owes,Stage.owes,Option.isSome_none,due_false]
    omega

theorem Goroutine.step_owes {c : Nat} {g : Goroutine} {pc : GatewayPc}
    (taken : g.step cfg c r move = some (pc,next)) : (next.lines = r.lines ∧ (pc.owes = true → g.pc.owes = true)) ∨
      ∃ response, next.lines = ⟨g.job.index,response⟩ :: r.lines ∧ g.pc.owes = true ∧ pc.owes = false := by
  cases Goroutine.step_cases taken with
  | delivered at_ room | reported at_ room =>
    rw [at_]
    exact .inr ⟨_,rfl,rfl,rfl⟩
  | @removed after d at_ found | @missing after at_ absent =>
    rw [at_]
    exact .inl ⟨(delete_same _).lines,fun owes => by cases after <;> exact owes⟩
  | @closed d after at_ =>
    rw [at_]
    exact .inl ⟨(close_same _).lines,fun owes => by cases after <;> exact owes⟩
  | sent at_ | failed at_ | received at_ | timedOut at_ | stuck at_ | quit at_ | interrupted at_ | silenced at_
  | gaveUp at_ | overdue at_ =>
    rw [at_]
    exact .inl ⟨rfl,fun _ => rfl⟩

theorem Goroutine.step_settled {c : Nat} {g : Goroutine} {pc : GatewayPc} (spawned : r.Spawned)
    (found : r.goroutines c = some g) (taken : g.step cfg c r move = some (pc,next)) (i : Nat) :
    (next.setPc c g pc).settled i ≤ r.settled i := by
  obtain ⟨later,same⟩ := Goroutine.step_goroutines taken
  have moved : (next.setPc c g pc).delegated i + due g.job.index i g.pc.owes = r.delegated i + due g.job.index i pc.owes :=
    delegated_move spawned found same later.fresh
  have lines : (next.setPc c g pc).written i = next.written i := rfl
  obtain ⟨unwritten,fewer⟩ | ⟨response,wrote,owed,paid⟩ := Goroutine.step_owes taken
  · have less : due g.job.index i pc.owes ≤ due g.job.index i g.pc.owes := due_le fewer
    have written : next.written i = r.written i := by rw [written,written,unwritten]
    rw [settled,settled,lines,written]
    omega
  · have written : next.written i = r.written i + due g.job.index i true := by
      rw [written,wrote]
      exact written_write g.job.index response
    rw [owed,paid,due_false] at moved
    rw [settled,settled,lines,written]
    omega

end steps

/-- The answer that the stdin loop writes or has written next. A queued request is not its own. -/
def Stdin.due (i : Nat) : Stdin → Nat
  | .limiting job => MessageRouter.due job.index i true
  | .enqueue job => MessageRouter.due job.index i true
  | .processing job stage => MessageRouter.due job.index i stage.owes
  | .report index _ _ => MessageRouter.due index i true
  | _ => 0

def Stdin.waits (i : Nat) : Stdin → Bool
  | .queued job => decide (job.index = i)
  | _ => false

def Monitor.due (i : Nat) : Monitor → Nat
  | .processing job stage _ => MessageRouter.due job.index i stage.owes
  | _ => 0

/-- The queued requests in hand that `processQueuedRequests` has not begun with. -/
def Monitor.unbegun : Monitor → List Job
  | .next rest => rest
  | .processing _ _ rest => rest
  | .refuse job rest => job :: rest
  | .send _ _ rest => rest
  | .close _ rest => rest
  | _ => []

def Monitor.told (i : Nat) : Monitor → Nat
  | .send job err _ => MessageRouter.due job.index i err.isSome
  | _ => 0

def State.unbegun (s : State) : List Job := s.monitor.unbegun ++ s.queue

/-- What can still come to the stdin loop for a queued request: an error nobody has begun with, sent or to be sent. -/
def State.told (s : State) (i : Nat) : Nat :=
  (s.unbegun.map Job.index).count i + s.monitor.told i + (s.results i).value.join.isSome.toNat

def State.balance (s : State) (i : Nat) : Nat :=
  s.router.settled i + s.stdin.due i + s.monitor.due i + if s.stdin.waits i then s.told i else 0

open State

open Stdin

section queue
variable {cfg : Config} {s next : State} {job : Job} {i : Nat}

@[simp] theorem Stdin.returned_due (job : Job) (err : Option String) (i : Nat) :
    (returned job err).due i = MessageRouter.due job.index i err.isSome := by
  cases err with
  | none => exact (due_false job.index i).symm
  | some message => rfl

@[simp] theorem Stdin.resume_due (job : Job) (progress : Progress) (i : Nat) :
    (resume job progress).due i = MessageRouter.due job.index i progress.owes := by
  cases progress with
  | inside stage => rfl
  | returned err => exact returned_due job err i

@[simp] theorem Stdin.returned_waits (job : Job) (err : Option String) (i : Nat) :
    (returned job err).waits i = false := by
  cases err <;> rfl

@[simp] theorem Stdin.resume_waits (job : Job) (progress : Progress) (i : Nat) :
    (resume job progress).waits i = false := by
  cases progress with
  | inside stage => rfl
  | returned err => exact returned_waits job err i

@[simp] theorem Monitor.resume_unbegun (job : Job) (rest : List Job) (progress : Progress) :
    (Monitor.resume job rest progress).unbegun = rest := by
  cases progress <;> rfl

theorem Monitor.resume_due (job : Job) (rest : List Job) (progress : Progress) (i : Nat) :
    (Monitor.resume job rest progress).due i + (Monitor.resume job rest progress).told i =
      MessageRouter.due job.index i progress.owes := by
  cases progress with
  | inside stage => exact add_zero _
  | returned err => exact zero_add _

theorem count_cons (job : Job) (rest : List Job) (i : Nat) :
    ((job :: rest).map Job.index).count i = (rest.map Job.index).count i + due job.index i true := by
  rw [map_cons,List.count_cons]
  simp [due]

theorem due_le_one (index i : Nat) (owes : Bool) : due index i owes ≤ due index i true := due_le fun _ => rfl

theorem due_self (i : Nat) : due i i true = 1 := by
  simp [due]

theorem due_of_ne {index i : Nat} (other : index ≠ i) (owes : Bool) : due index i owes = 0 :=
  if_neg fun both => other both.1

theorem mem_waiting_of_unbegun (listed : job ∈ s.unbegun) : job.index ∈ s.waiting := by
  refine mem_map_of_mem ?_
  rcases mem_append.mp listed with inHand | queued
  · refine mem_append_left _ ?_
    cases at_ : s.monitor <;> rw [at_] at inHand <;> simp_all [Monitor.unbegun,Monitor.jobs]
  · exact mem_append_right _ queued

/-- What holds in every state of a run, whoever is answered how often. -/
structure Tidy (s : State) : Prop where
  spawned : s.router.Spawned
  results : Results s
  blank : ∀ i, (s.results i).value ≠ none → i < s.inputs.length ∧ ∀ job, s.stdin.unqueued = some job → job.index ≠ i
  context : ∀ job ∈ s.unbegun, s.stdin.waits job.index = true ∨ s.expired job.index = true
  current : ∀ i, s.stdin.waits i = true → i < s.inputs.length

theorem Tidy.frame (tidy : Tidy s) (spawned : next.router.Spawned) (stdin : next.stdin = s.stdin)
    (monitor : next.monitor = s.monitor) (queue : next.queue = s.queue) (results : next.results = s.results)
    (inputs : next.inputs = s.inputs) (expired : ∀ i, s.expired i = true → next.expired i = true) : Tidy next where
  spawned := spawned
  results := tidy.results.frame (by rw [waiting,waiting,monitor,queue]) (fun i => by rw [results]) inputs
    (.inr (by rw [stdin]))
  blank i present := by
    rw [stdin,inputs]
    exact tidy.blank i (results ▸ present)
  context job listed := by
    rw [State.unbegun,monitor,queue] at listed
    rw [stdin]
    exact (tidy.context job listed).imp_right (expired job.index)
  current := by
    rw [stdin,inputs]
    exact tidy.current

theorem Tidy.stdin_moves (tidy : Tidy s) {router : Router} {stdin : Stdin} {expired : Nat → Bool}
    (spawned : router.Spawned) (ahead : stdin.unqueued = none ∨ stdin.unqueued = s.stdin.unqueued)
    (idle : ∀ i, stdin.waits i = false) (context : ∀ i, s.stdin.waits i = true ∨ s.expired i = true → expired i = true) :
    Tidy { s with router := router, stdin := stdin, expired := expired } where
  spawned := spawned
  results := tidy.results.moveStdin ahead
  blank i present := by
    refine ⟨(tidy.blank i present).1,fun job reading => ?_⟩
    rcases ahead with none | same
    · rw [none] at reading
      cases reading
    · exact (tidy.blank i present).2 job (same ▸ reading)
  context job listed := .inr (context job.index (tidy.context job listed))
  current i waits := by
    simp only [idle] at waits
    cases waits

theorem context_ends (at_ : s.stdin = .queued job) (i : Nat) (either : s.stdin.waits i = true ∨ s.expired i = true) :
    update s.expired job.index true i = true := by
  rw [update_apply]
  split
  next => rfl
  next other =>
    rcases either with waits | ended
    · rw [at_] at waits
      exact absurd (of_decide_eq_true waits).symm other
    · exact ended

section
variable (tidy : Tidy s) {results : Nat → Slot (Option String)} {monitor : Monitor} {queue : List Job}
include tidy

theorem stepStdin_tidy {move : StdinMove} (spawned : next.router.Spawned) (taken : s.stepStdin cfg move = some next) : Tidy next := by
  have results := stepStdin_results tidy.results taken
  have unwaited {stdin : Stdin} (at_ : s.stdin = stdin) (none : ∀ i, stdin.waits i = false) (i : Nat)
      (either : s.stdin.waits i = true ∨ s.expired i = true) : s.expired i = true := by
    rcases either with waits | ended
    · rw [at_,none] at waits
      cases waits
    · exact ended
  cases stepStdin_cases taken with
  | malformed at_ decoded | accepted at_ decoded =>
    refine ⟨spawned,results,fun i present => ?_,fun job listed => ?_,nofun⟩
    · have read := (tidy.blank i present).1
      refine ⟨lt_of_lt_of_le read (by simp),fun job reading => ?_⟩
      cases reading <;> exact ne_of_gt read
    · exact .inr (unwaited at_ (fun _ => rfl) _ (tidy.context job listed))
  | limited at_ | overflown at_ full | reported at_ room | silenced at_ cancelled | left at_ cancelled =>
    exact tidy.stdin_moves spawned (.inl rfl) (fun _ => rfl) (unwaited at_ fun _ => rfl)
  | parked at_ down =>
    exact tidy.stdin_moves spawned (.inr (by rw [at_]; rfl)) (fun _ => rfl) (unwaited at_ fun _ => rfl)
  | begun at_ | processed at_ =>
    exact tidy.stdin_moves spawned (.inl (resume_unqueued _ _)) (resume_waits _ _)
      (unwaited at_ fun _ => rfl)
  | @enqueued job at_ space =>
    refine ⟨spawned,results,fun i present => ⟨(tidy.blank i present).1,nofun⟩,fun other listed => ?_,fun i waits => ?_⟩
    · have old : other ∈ s.unbegun ∨ other = job := by simpa [State.unbegun,or_assoc] using listed
      rcases old with old | rfl
      · exact .inr (unwaited at_ (fun _ => rfl) _ (tidy.context other old))
      · exact .inl (decide_eq_true rfl)
    · rw [← of_decide_eq_true waits]
      exact (tidy.results.ahead job (by rw [at_]; rfl)).1
  | @resulted job err slot at_ received =>
    refine ⟨spawned,results,fun i present => ?_,fun other listed => ?_,fun i waits => ?_⟩
    · refine ⟨?_,fun job reading => by rw [returned_unqueued] at reading; cases reading⟩
      simp only [update_apply] at present
      split at present
      next => exact absurd (Slot.value_of_receive received).2 present
      next => exact (tidy.blank i present).1
    · exact .inr (context_ends at_ other.index (tidy.context other listed))
    · rw [returned_waits] at waits
      cases waits
  | @timedOut job at_ ended =>
    exact tidy.stdin_moves spawned (.inl rfl) (fun _ => rfl) (context_ends at_)

theorem Tidy.monitor_moves {router : Router} (spawned : router.Spawned)
    (results : Results { s with router := router, monitor := monitor, queue := queue })
    (fewer : ∀ job ∈ monitor.unbegun ++ queue, job ∈ s.unbegun) :
    Tidy { s with router := router, monitor := monitor, queue := queue } :=
  ⟨spawned,results,tidy.blank,fun job listed => tidy.context job (fewer job listed),tidy.current⟩

theorem Tidy.results_change
    (kept : Results { s with monitor := monitor, queue := queue, results := results })
    (others : ∀ i, i ∉ s.waiting → results i = s.results i)
    (fewer : ∀ job ∈ monitor.unbegun ++ queue, job ∈ s.unbegun) :
    Tidy { s with monitor := monitor, queue := queue, results := results } where
  spawned := tidy.spawned
  results := kept
  blank i present := by
    by_cases waits : i ∈ s.waiting
    · refine ⟨tidy.results.read i waits,fun job reading same => ?_⟩
      exact (tidy.results.ahead job reading).2.1 (same ▸ waits)
    · simp only [others i waits] at present
      exact tidy.blank i present
  context job listed := tidy.context job (fewer job listed)
  current := tidy.current

theorem Tidy.cleared {err : String} (idle : s.monitor.jobs = [])
    (clearing : clear err s.queue s.results = .ok results) :
    s.waiting = s.queue.map Job.index ∧ ∀ i, i ∉ s.queue.map Job.index → results i = s.results i := by
  have waiting : s.waiting = s.queue.map Job.index := by simp [waiting,idle]
  obtain ⟨cleared,run,others⟩ := clear_ok err s.queue s.results (waiting ▸ tidy.results.once)
    (waiting ▸ tidy.results.opened)
  rw [clearing] at run
  cases run
  exact ⟨waiting,others⟩

theorem stepMonitor_tidy {move : MonitorMove} (spawned : next.router.Spawned)
    (taken : s.stepMonitor cfg move = some next) : Tidy next := by
  have results := stepMonitor_results tidy.results taken
  have one {job : Job} {rest : List Job} {slot : Slot (Option String)} (jobs : s.monitor.jobs = job :: rest) (i : Nat)
      (outside : i ∉ s.waiting) : update s.results job.index slot i = s.results i := by
    refine update_of_ne (fun same : i = job.index => outside ?_) ..
    simp [waiting,jobs,same]
  cases stepMonitor_cases taken with
  | woken at_ | noted at_ | rested at_ | refused at_ | left at_ =>
    refine tidy.monitor_moves spawned results fun job listed => ?_
    simpa [State.unbegun,at_,Monitor.unbegun] using listed
  | begun at_ live uncancelled =>
    refine tidy.monitor_moves spawned results fun job listed => ?_
    rw [Monitor.resume_unbegun] at listed
    rw [State.unbegun,at_]
    exact mem_cons_of_mem _ listed
  | processed at_ moved =>
    refine tidy.monitor_moves spawned results fun job listed => ?_
    rw [Monitor.resume_unbegun] at listed
    rw [State.unbegun,at_]
    exact listed
  | refusal at_ offered empty =>
    refine tidy.results_change results (one (by rw [at_]; rfl)) fun job listed => ?_
    rw [State.unbegun,at_]
    exact mem_cons_of_mem _ listed
  | sent at_ offered | closed at_ closing =>
    refine tidy.results_change results (one (by rw [at_]; rfl)) fun job listed => ?_
    rw [State.unbegun,at_]
    exact listed
  | cleared at_ cancelled clearing =>
    obtain ⟨waiting,others⟩ := tidy.cleared (by rw [at_]; rfl) clearing
    exact tidy.results_change results (fun i outside => others i (waiting ▸ outside)) fun _ none => by cases none
  | crashed panic => exact tidy.frame spawned rfl rfl rfl rfl rfl fun _ ended => ended

theorem step_tidy {label : Label} (stepped : step cfg s label = some next) : Tidy next := by
  have spawned := step_spawned tidy.spawned stepped
  cases (taken_of_step stepped).2 with
  | stdin moved => exact stepStdin_tidy tidy spawned moved
  | monitor moved => exact stepMonitor_tidy tidy spawned moved
  | reader moved =>
    have same := (stepReader_untouched moved).1
    exact tidy.frame spawned same.stdin same.monitor same.queue same.results same.inputs
      fun _ ended => same.expired ▸ ended
  | stop moved =>
    have same := (stepStop_untouched moved).1
    exact tidy.frame spawned same.stdin same.monitor same.queue same.results same.inputs
      fun _ ended => same.expired ▸ ended
  | gateway | connection | drain => exact tidy.frame spawned rfl rfl rfl rfl rfl fun _ ended => ended
  | expire index =>
    refine tidy.frame spawned rfl rfl rfl rfl rfl fun i ended => ?_
    simp only [update_apply]
    split
    next => rfl
    next => exact ended

end

theorem start_tidy (connected : Bool) : Tidy (start connected) :=
  ⟨nofun,⟨nodup_nil,nofun,nofun,fun _ _ => rfl,nofun⟩,fun _ present => absurd rfl present,nofun,nofun⟩

/-! ### No step adds an answer, but for reading and for giving up a queued request -/

def Raises (s : State) (i : Nat) : Label → Prop
  | .stdin (.read _) => i = s.inputs.length
  | .stdin .timeout => s.stdin.waits i = true
  | _ => False

theorem State.balance_of_unwaited (idle : s.stdin.waits i = false) :
    s.balance i = s.router.settled i + s.stdin.due i + s.monitor.due i := by
  rw [State.balance,idle]
  rfl

theorem State.balance_of_waits (waits : s.stdin.waits i = true) :
    s.balance i = s.router.settled i + s.monitor.due i + s.told i := by
  have other : s.stdin.due i = 0 := by
    cases at_ : s.stdin with
    | queued job => rfl
    | _ =>
      rw [at_] at waits
      cases waits
  rw [State.balance,waits,other]
  rfl

theorem State.balance_of_untouched (tidy : Tidy s) (same : Untouched s next)
    (later : s.router.pendingReqs.fresh ≤ next.router.pendingReqs.fresh) : next.balance i = s.balance i := by
  simp [State.balance,State.told,State.unbegun,same.stdin,same.monitor,same.queue,same.results,settled_same tidy.spawned same.lines same.goroutines later]

theorem State.balance_le_of_stdin (idle : next.stdin.waits i = false) (monitor : next.monitor = s.monitor)
    (less : next.router.settled i + next.stdin.due i ≤ s.router.settled i + s.stdin.due i) :
    next.balance i ≤ s.balance i := by
  rw [balance_of_unwaited idle,monitor,State.balance]
  omega

theorem State.told_of_free (free : i ∉ s.waiting) (blank : (s.results i).value = none) : s.told i = 0 := by
  have unlisted : i ∉ s.unbegun.map Job.index := by
    intro listed
    obtain ⟨job,member,rfl⟩ := mem_map.mp listed
    exact free (mem_waiting_of_unbegun member)
  have untold : s.monitor.told i = 0 := by
    cases at_ : s.monitor with
    | send job err rest => exact due_of_ne (fun same => free (by simp [waiting,at_,Monitor.jobs,same])) _
    | _ => rfl
  rw [State.told,count_eq_zero_of_not_mem unlisted,untold,blank]
  rfl

theorem State.told_enqueue (stdin : Stdin) :
    State.told { s with stdin := stdin, queue := s.queue ++ [job] } i = s.told i + due job.index i true := by
  simp only [State.told,State.unbegun,map_append,count_append,count_cons,map_nil,count_nil]
  omega

variable {slot : Slot (Option String)} {err : Option String} {rest : List Job}

theorem resulted_balance {err : Option (Option String)} (at_ : s.stdin = .queued job)
    (received : (s.results job.index).receive = some (err,slot)) :
    s.router.settled i + due job.index i err.join.isSome + s.monitor.due i ≤ s.balance i := by
  by_cases same : job.index = i
  · subst same
    rw [balance_of_waits (by simp [at_,waits]),State.told,(Slot.value_of_receive received).1]
    cases err.join with
    | none => simp
    | some message => simp [due_self]; omega
  · rw [due_of_ne same,State.balance]
    omega

theorem stepStdin_balance {move : StdinMove} (tidy : Tidy s) (taken : s.stepStdin cfg move = some next)
    (calm : ¬ Raises s i (.stdin move)) : next.balance i ≤ s.balance i := by
  cases stepStdin_cases taken with
  | malformed at_ | accepted at_ =>
    refine balance_le_of_stdin rfl rfl (Nat.add_le_add_left ?_ _)
    exact le_of_eq_of_le (due_of_ne (fun same => calm same.symm) true) (Nat.zero_le _)
  | limited at_ | parked at_ | overflown at_ =>
    exact balance_le_of_stdin rfl rfl (by rw [at_]; exact le_refl _)
  | @begun job at_ up =>
    refine balance_le_of_stdin (resume_waits ..) rfl (Nat.add_le_add_left ?_ _)
    rw [resume_due,at_]
    exact due_le_one job.index i _
  | @enqueued job at_ space =>
    by_cases same : job.index = i
    · subst same
      obtain ⟨_,free,_⟩ := tidy.results.ahead job (by rw [at_]; rfl)
      have blank : (s.results job.index).value = none := by
        by_contra present
        exact (tidy.blank _ present).2 job (by rw [at_]; rfl) rfl
      have waits : (queued job).waits job.index = true := decide_eq_true rfl
      rw [balance_of_waits waits,told_enqueue,told_of_free free blank,balance_of_unwaited (by rw [at_]; rfl),at_]
      simp only [Stdin.due]
      omega
    · exact balance_le_of_stdin (decide_eq_false same) rfl (Nat.add_le_add_left (Nat.zero_le _) _)
  | @resulted job err slot at_ received =>
    rw [balance_of_unwaited (returned_waits ..),returned_due]
    exact resulted_balance at_ received
  | @timedOut job at_ ended =>
    have other : job.index ≠ i := fun same => calm (by simp [Raises,at_,waits,same])
    refine balance_le_of_stdin rfl rfl (Nat.add_le_add_left ?_ _)
    exact le_of_eq_of_le (due_of_ne other true) (Nat.zero_le _)
  | @processed job stage move progress router at_ moved =>
    refine balance_le_of_stdin (resume_waits ..) rfl ?_
    rw [resume_due,at_]
    exact Stage.step_settled tidy.spawned moved i
  | reported at_ room =>
    refine balance_le_of_stdin rfl rfl ?_
    rw [settled_write,at_]
    exact le_refl _
  | silenced at_ | left at_ => exact balance_le_of_stdin rfl rfl (Nat.add_le_add_left (Nat.zero_le _) _)

theorem State.balance_le_of_monitor (stdin : next.stdin = s.stdin)
    (waited : s.stdin.waits i = true → next.router.settled i + next.monitor.due i + next.told i ≤
      s.router.settled i + s.monitor.due i + s.told i)
    (unwaited : s.stdin.waits i = false → next.router.settled i + next.monitor.due i ≤
      s.router.settled i + s.monitor.due i) : next.balance i ≤ s.balance i := by
  cases waits : s.stdin.waits i with
  | true =>
    rw [balance_of_waits waits,balance_of_waits (by rw [stdin]; exact waits)]
    exact waited waits
  | false =>
    have less := unwaited waits
    rw [balance_of_unwaited waits,balance_of_unwaited (by rw [stdin]; exact waits),stdin]
    omega

theorem State.balance_le_of_told (stdin : next.stdin = s.stdin) (router : next.router = s.router)
    (idle : next.monitor.due i = 0) (less : next.told i ≤ s.told i) : next.balance i ≤ s.balance i := by
  refine State.balance_le_of_monitor stdin (fun _ => ?_) (fun _ => ?_)
  all_goals
    rw [router,idle]
    omega

theorem isSome_of_offer {slot sent : Slot (Option String)} (offered : slot.offer err = .ok sent) :
    sent.value.join.isSome.toNat ≤ slot.value.join.isSome.toNat + err.isSome.toNat := by
  cases value : sent.value.join with
  | none => exact Nat.zero_le _
  | some message =>
    rcases Slot.value_of_offer offered (Option.join_eq_some_iff.mp value) with before | rfl
    · rw [before]
      exact Nat.le_add_right _ _
    · exact le_add_left _ _

theorem due_eq_toNat (i : Nat) (owes : Bool) : due i i owes = owes.toNat := by
  cases owes <;> simp [due]

theorem State.told_of_unbegun (unbegun : s.monitor.unbegun = job :: rest)
    (untold : s.monitor.told i = 0) : s.told i = ((rest ++ s.queue).map Job.index).count i + due job.index i true +
      (s.results i).value.join.isSome.toNat := by
  rw [State.told,State.unbegun,unbegun,untold,cons_append,count_cons]
  omega

theorem State.told_of_offer
    (offered : (s.results job.index).offer err = .ok slot) :
    State.told { s.setResult job.index slot with monitor := .close job rest } i ≤
      ((rest ++ s.queue).map Job.index).count i + due job.index i err.isSome +
        (s.results i).value.join.isSome.toNat := by
  simp only [State.told,State.unbegun,Monitor.unbegun,Monitor.told,State.setResult,update_apply]
  split
  next same =>
    have more := isSome_of_offer offered
    rw [same,due_eq_toNat]
    omega
  next => omega

theorem stepMonitor_balance {move : MonitorMove} (tidy : Tidy s) (taken : s.stepMonitor cfg move = some next) :
    next.balance i ≤ s.balance i := by
  cases stepMonitor_cases taken with
  | woken at_ | noted at_ | rested at_ | refused at_ | left at_ =>
    refine State.balance_le_of_told rfl rfl rfl (Nat.le_of_eq ?_)
    simp [State.told,State.unbegun,at_,Monitor.unbegun,Monitor.told]
  | @begun job rest at_ live uncancelled =>
    have less := due_le_one job.index i (processStdinMessageDirect cfg job.request).owes
    have resumed := Monitor.resume_due job rest (processStdinMessageDirect cfg job.request) i
    have unbegun : s.monitor.unbegun = job :: rest := by rw [at_]; rfl
    have untold : s.monitor.told i = 0 := by rw [at_]; rfl
    have before := State.told_of_unbegun unbegun untold
    refine State.balance_le_of_monitor rfl (fun _ => ?_) (fun unwaited => ?_)
    · rw [before]
      simp only [State.told,State.unbegun,Monitor.resume_unbegun]
      omega
    · have other : job.index ≠ i := by
        rintro rfl
        rcases tidy.context job (by simp [State.unbegun,at_,Monitor.unbegun]) with waits | ended
        · rw [unwaited] at waits
          cases waits
        · rw [live] at ended
          cases ended
      rw [due_of_ne other] at resumed
      simp only
      omega
  | @processed job stage rest move progress router at_ moved =>
    have law := Stage.step_settled tidy.spawned moved i
    have resumed := Monitor.resume_due job rest progress i
    have owed : s.monitor.due i = due job.index i stage.owes := by rw [at_]; rfl
    have before : s.told i = ((rest ++ s.queue).map Job.index).count i + (s.results i).value.join.isSome.toNat := by
      rw [State.told,State.unbegun,at_]
      rfl
    refine State.balance_le_of_monitor rfl (fun _ => ?_) (fun _ => ?_)
    · rw [before,owed]
      simp only [State.told,State.unbegun,Monitor.resume_unbegun]
      omega
    · simp only
      omega
  | @refusal job rest slot at_ offered empty =>
    have unbegun : s.monitor.unbegun = job :: rest := by rw [at_]; rfl
    have untold : s.monitor.told i = 0 := by rw [at_]; rfl
    refine State.balance_le_of_told rfl rfl rfl ?_
    rw [State.told_of_unbegun unbegun untold]
    exact State.told_of_offer offered
  | @sent job err rest slot at_ offered =>
    have before : s.told i = ((rest ++ s.queue).map Job.index).count i + due job.index i err.isSome +
        (s.results i).value.join.isSome.toNat := by
      rw [State.told,State.unbegun,at_]
      rfl
    refine State.balance_le_of_told rfl rfl rfl ?_
    rw [before]
    exact State.told_of_offer offered
  | @closed job rest slot at_ closing =>
    refine State.balance_le_of_told rfl rfl rfl (Nat.le_of_eq ?_)
    simp only [State.told,State.unbegun,at_,Monitor.unbegun,Monitor.told,State.setResult,update_apply]
    split
    next same => rw [Slot.value_of_close closing,same]
    next => rfl
  | @cleared last results at_ cancelled clearing =>
    refine State.balance_le_of_told rfl rfl rfl ?_
    obtain ⟨_,others⟩ := tidy.cleared (by rw [at_]; rfl) clearing
    simp [State.told,State.unbegun,at_,Monitor.unbegun,Monitor.told]
    by_cases queued : i ∈ s.queue.map Job.index
    · have one := Bool.toNat_le (results i).value.join.isSome
      have some := count_pos_iff.mpr queued
      omega
    · rw [others i queued]
      omega
  | crashed panic => exact le_refl _

theorem step_balance {label : Label} (tidy : Tidy s) (stepped : step cfg s label = some next)
    (calm : ¬ Raises s i label) : next.balance i ≤ s.balance i := by
  cases (taken_of_step stepped).2 with
  | stdin moved => exact stepStdin_balance tidy moved calm
  | monitor moved => exact stepMonitor_balance tidy moved
  | reader moved =>
    have same := (stepReader_untouched moved).1
    exact Nat.le_of_eq (balance_of_untouched tidy same (stepReader_later moved).fresh)
  | stop moved =>
    have same := (stepStop_untouched moved).1
    exact Nat.le_of_eq (balance_of_untouched tidy same (stepStop_later moved).fresh)
  | gateway found moved =>
    have less := Goroutine.step_settled tidy.spawned found moved i
    exact Nat.add_le_add_right (Nat.add_le_add_right (Nat.add_le_add_right less _) _) _
  | connection | drain | expire => exact le_refl _

theorem read_balance {data : Data} (stepped : step cfg s (.stdin (.read data)) = some next) (i : Nat) :
    next.balance i ≤ s.balance i + 1 := by
  have atMost : due s.inputs.length i true ≤ 1 := by
    unfold due
    split <;> simp
  cases (taken_of_step stepped).2 with
  | stdin moved =>
    cases stepStdin_cases moved with
    | malformed at_ | accepted at_ =>
      rw [balance_of_unwaited rfl,State.balance]
      simp only [Stdin.due]
      omega

theorem timeout_balance (stepped : step cfg s (.stdin .timeout) = some next) : ∃ job, s.stdin = .queued job ∧
      next.balance job.index = s.router.settled job.index + s.monitor.due job.index + 1 := by
  cases (taken_of_step stepped).2 with
  | stdin moved =>
    cases stepStdin_cases moved with
    | @timedOut job at_ ended =>
      refine ⟨job,at_,?_⟩
      rw [balance_of_unwaited rfl]
      simp only [Stdin.due,due_self]
      omega

/-- Nobody has an answer for a message that was not read. -/
structure Ledger (s : State) : Prop extends Tidy s where
  beyond : ∀ i, s.inputs.length ≤ i → s.balance i = 0

theorem step_ledger {label : Label} (ledger : Ledger s) (stepped : step cfg s label = some next) : Ledger next := by
  refine ⟨step_tidy ledger.toTidy stepped,fun i unread => ?_⟩
  have before : s.inputs.length ≤ i := Nat.le_trans (step_inputs stepped).length_le unread
  have calm : ¬ Raises s i label := by
    intro raises
    unfold Raises at raises
    split at raises
    next data =>
      cases (taken_of_step stepped).2 with
      | stdin moved =>
        cases stepStdin_cases moved with
        | malformed at_ | accepted at_ =>
          simp only [length_append,length_singleton] at unread
          omega
    next => exact absurd (ledger.current i raises) (not_lt.mpr before)
    next => exact raises
  have less := step_balance ledger.toTidy stepped calm
  rw [ledger.beyond i before] at less
  exact le_zero.mp less

theorem start_ledger (connected : Bool) : Ledger (start connected) :=
  ⟨start_tidy connected,fun _ _ => rfl⟩

end queue

/-! ### One answer for each message -/

/-- The stdin loop gives up the queued request only while it has no answer and nobody works on it. -/
def GivesUpUnbegun (i : Nat) (s : State) : Label → Prop
  | .stdin .timeout => s.stdin.waits i = true → s.router.settled i + s.monitor.due i = 0
  | _ => True

def Single (i : Nat) (s : State) : Prop := s.balance i ≤ 1

section once
variable {cfg : Config} {s next t : State} {i : Nat}

theorem timeout_single_iff (tidy : Tidy s) (single : Single i s) (stepped : step cfg s (.stdin .timeout) = some next) :
    Single i next ↔ GivesUpUnbegun i s (.stdin .timeout) := by
  obtain ⟨job,at_,balance⟩ := timeout_balance stepped
  have waits : s.stdin.waits i = decide (job.index = i) := by rw [at_]; rfl
  by_cases same : job.index = i
  · subst same
    have given : GivesUpUnbegun job.index s (.stdin .timeout) ↔
        s.router.settled job.index + s.monitor.due job.index = 0 := by
      simp [GivesUpUnbegun,waits]
    rw [given,Single,balance]
    omega
  · have calm : ¬ Raises s i (.stdin .timeout) := by
      simp only [Raises,waits,decide_eq_false same]
      exact nofun
    refine iff_of_true (Nat.le_trans (step_balance tidy stepped calm) single) fun waiting => ?_
    rw [waits,decide_eq_false same] at waiting
    cases waiting

theorem step_single_iff {label : Label} (ledger : Ledger s) (single : Single i s)
    (stepped : step cfg s label = some next) : Single i next ↔ GivesUpUnbegun i s label := by
  by_cases timeout : label = .stdin .timeout
  · subst timeout
    exact timeout_single_iff ledger.toTidy single stepped
  · have trivially : GivesUpUnbegun i s label := by
      unfold GivesUpUnbegun
      split
      next => exact absurd rfl timeout
      next => trivial
    refine iff_of_true ?_ trivially
    by_cases raises : Raises s i label
    · unfold Raises at raises
      split at raises
      next data =>
        have more := read_balance stepped i
        rw [ledger.beyond i (Nat.le_of_eq raises.symm)] at more
        exact more
      next => exact absurd rfl timeout
      next => exact raises.elim
    · exact Nat.le_trans (step_balance ledger.toTidy stepped raises) single

theorem always_single_iff {connected : Bool} {labels : List Label}
    (executed : run (step cfg) (start connected) labels = some t) :
    Always (step cfg) (Single i) (start connected) labels ↔
      Meets (step cfg) (GivesUpUnbegun i) (start connected) labels :=
  always_iff_meets (fun _ _ _ ledger stepped => step_ledger ledger stepped)
    (fun _ _ _ ledger single stepped => step_single_iff ledger single stepped) (start_ledger connected)
    (Nat.zero_le 1) executed

theorem State.written_le (s : State) (i : Nat) : s.router.written i ≤ s.balance i := by
  unfold State.balance settled
  omega

theorem lines_le_inputs (ledger : Ledger s) (single : ∀ i, Single i s) : s.router.lines.length ≤ s.inputs.length := by
  have distinct : (s.router.lines.map Line.index).Nodup :=
    nodup_iff_count_le_one.mpr fun i => Nat.le_trans (s.written_le i) (single i)
  have within : s.router.lines.map Line.index ⊆ range s.inputs.length := by
    intro i written
    refine mem_range.mpr (Nat.lt_of_not_le fun unread => ?_)
    have none := Nat.le_trans (s.written_le i) (Nat.le_of_eq (ledger.beyond i unread))
    have some : 0 < s.router.written i := count_pos_iff.mpr written
    omega
  calc s.router.lines.length = (s.router.lines.map Line.index).length := (length_map _).symm
    _ ≤ (range s.inputs.length).length := (distinct.subperm within).length_le
    _ = s.inputs.length := length_range

end once

end McpBridge.MessageRouter
