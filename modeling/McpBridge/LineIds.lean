import McpBridge.ResponseLines

/-!
The identifiers of the lines on stdout, in any run: with queued requests, the monitor, and a router that is stopped.
-/
namespace McpBridge.MessageRouter
open Values Channels Pending Runs Function Stage

/-- The channels, the reader and the goroutines agree on the keys of the channels. -/
structure Named (r : Router) (reader : Reader) (name : Nat → Key) : Prop where
  table : Labelled r.pendingReqs (fun response => response.id.key?) name
  sending : ∀ c response, reader = .sending c response → c < r.pendingReqs.fresh ∧ response.id.key? = some (name c)
  spawned : ∀ c g, r.goroutines c = some g → c < r.pendingReqs.fresh ∧ g.job.request.id.key? = some (name c)
  delivering : ∀ c g response, r.goroutines c = some g → g.pc = .deliver (some response) →
    response.id.key? = some (name c)

section named
variable {cfg : Config} {r next : Router} {reader : Reader} {name : Nat → Key}

section
variable (named : Named r reader name)
include named

theorem Named.frame (table : Labelled next.pendingReqs (fun response => response.id.key?) name)
    (fresh : next.pendingReqs.fresh = r.pendingReqs.fresh) (goroutines : next.goroutines = r.goroutines) :
    Named next reader name := by
  refine ⟨table,?_,?_,?_⟩
  · rw [fresh]
    exact named.sending
  · rw [fresh,goroutines]
    exact named.spawned
  · rw [goroutines]
    exact named.delivering

theorem Named.delete (id : Any) : Named (r.delete id) reader name := by
  unfold Router.delete
  split
  next => exact named.frame named.table rfl rfl
  next k key => exact named.frame (named.table.delete k) rfl rfl

theorem Named.close (c : Nat) : Named (r.close c) reader name := by
  unfold Router.close Table.close
  cases closed : (r.pendingReqs.slots c).close with
  | error panic => exact named.frame named.table rfl rfl
  | ok slot => exact named.frame (named.table.close closed) rfl rfl

theorem Named.store (k : Key) :
    Named { r with pendingReqs := r.pendingReqs.store k } reader (update name r.pendingReqs.fresh k) := by
  have old {c : Nat} (made : c < r.pendingReqs.fresh) : update name r.pendingReqs.fresh k c = name c :=
    update_of_ne (Nat.ne_of_lt made) ..
  refine ⟨named.table.store k,fun c response at_ => ?_,fun c g found => ?_,fun c g response found at_ => ?_⟩
  · obtain ⟨made,same⟩ := named.sending c response at_
    exact ⟨Nat.lt_succ_of_lt made,by rw [old made,same]⟩
  · obtain ⟨made,same⟩ := named.spawned c g found
    exact ⟨Nat.lt_succ_of_lt made,by rw [old made,same]⟩
  · rw [old (named.spawned c g found).1]
    exact named.delivering c g response found at_

theorem Named.processGatewayRequest (job : Job) : ∃ name, Named (r.processGatewayRequest job) reader name := by
  unfold Router.processGatewayRequest
  split
  next => exact ⟨name,named.frame named.table rfl rfl⟩
  next k key =>
    have stored := named.store k
    refine ⟨_,stored.table,stored.sending,fun c g found => ?_,fun c g response found at_ => ?_⟩
    · simp only [update_apply] at found
      split at found
      next same =>
        cases found
        rw [same,update_self]
        exact ⟨Nat.lt_succ_self _,key⟩
      next => exact stored.spawned c g found
    · simp only [update_apply] at found
      split at found
      next =>
        cases found
        cases at_
      next => exact stored.delivering c g response found at_

end

theorem Stage.step_named {job : Job} {stage : Stage} {move : Move} {progress : Progress} (named : Named r reader name)
    (taken : stage.step cfg job r move = some (progress,next)) : ∃ name, Named next reader name := by
  cases step_cases taken with
  | stored mode =>
    unfold Router.store
    split
    next => exact ⟨name,named.frame named.table rfl rfl⟩
    next k key => exact ⟨_,named.store k⟩
  | answered mode outcome => cases outcome <;> exact ⟨name,named.frame named.table rfl rfl⟩
  | removed | missing => exact ⟨name,named.delete _⟩
  | closed mode c after => exact ⟨name,named.close c⟩
  | handed => exact named.processGatewayRequest job
  | _ => exact ⟨name,named.frame named.table rfl rfl⟩

section
variable {c : Nat} {g : Goroutine} (named : Named r reader name) (found : r.goroutines c = some g)
include named found

theorem Named.setPc {pc : GatewayPc} (delivers : ∀ response, pc = .deliver (some response) →
      response.id.key? = some (name c)) : Named (r.setPc c g pc) reader name := by
  refine ⟨named.table,named.sending,fun d g' listed => ?_,fun d g' response listed at_ => ?_⟩
  · obtain ⟨rfl,rfl⟩ | ⟨_,old⟩ := Router.goroutine_of_setPc rfl listed
    · exact named.spawned d g found
    · exact named.spawned d g' old
  · obtain ⟨rfl,rfl⟩ | ⟨_,old⟩ := Router.goroutine_of_setPc rfl listed
    · exact delivers response at_
    · exact named.delivering d g' response old at_

theorem Goroutine.step_named {pc : GatewayPc} {move : GatewayMove} (taken : g.step cfg c r move = some (pc,next)) :
    Named (next.setPc c g pc) reader name := by
  have others := (Goroutine.step_goroutines taken).2
  have found' : next.goroutines c = some g := others ▸ found
  cases Goroutine.step_cases taken with
  | @received response table at_ got =>
    obtain ⟨labelled,own⟩ := named.table.receive got
    have received : Named { r with pendingReqs := table } reader name :=
      named.frame labelled (by rw [(Table.receive_eq got).2]; rfl) rfl
    refine received.setPc found' fun response same => ?_
    cases same
    exact own response rfl
  | @removed after d at_ loaded => exact (named.delete _).setPc found' fun _ same => by cases same
  | @missing after at_ absent => exact (named.delete _).setPc found' fun _ same => by cases after <;> cases same
  | @closed d after at_ => exact (named.close d).setPc found' fun _ same => by cases after <;> cases same
  | @delivered response at_ room =>
    have wrote : Named (r.write g.job.index response) reader name := named.frame named.table rfl rfl
    exact wrote.setPc found' fun _ same => by cases same
  | @reported message at_ room =>
    have wrote : Named (r.write g.job.index (some (errorResponse g.job.request.id message))) reader name :=
      named.frame named.table rfl rfl
    exact wrote.setPc found' fun _ same => by cases same
  | _ => exact named.setPc found' fun _ same => by cases same

end

theorem stepReader_named {s next : State} {move : ReaderMove} (named : Named s.router s.reader name)
    (taken : s.stepReader move = some next) : Named next.router next.reader name := by
  have elsewhere {reader : Reader} (away : ∀ c response, reader ≠ .sending c response) : Named s.router reader name :=
    ⟨named.table,fun c response at_ => absurd at_ (away c response),named.spawned,named.delivering⟩
  have idles : Named s.router .idle name := elsewhere fun _ _ same => by cases same
  cases stepReader_cases taken with
  | nothing at_ => exact named
  | @received response at_ =>
    have routes : Named s.router (.routing response) name := elsewhere fun _ _ same => by cases same
    exact routes.frame named.table rfl rfl
  | @routed response c at_ found =>
    obtain ⟨k,key,entry,_⟩ := Router.load_eq_some found
    obtain ⟨made,same⟩ := named.table.entries k c entry
    have sends : Named s.router (.sending c response) name := by
      refine ⟨named.table,fun d x sending => ?_,named.spawned,named.delivering⟩
      cases sending
      exact ⟨made,by rw [key,same]⟩
    exact sends.delete response.id
  | @unrouted response at_ absent => exact idles.delete response.id
  | @delivered c response at_ =>
    obtain ⟨made,same⟩ := named.sending c response at_
    have closes : Named s.router (.closing c) name := elsewhere fun _ _ same => by cases same
    unfold Router.offer Table.offer
    cases offered : (s.router.pendingReqs.slots c).offer response with
    | error panic => exact closes.frame named.table rfl rfl
    | ok slot => exact closes.frame (named.table.offer made same offered) rfl rfl
  | @closed c at_ => exact idles.close c
  | left at_ | undelivered at_ => exact elsewhere fun _ _ same => by cases same

theorem stepStop_named {s next : State} {move : StopMove} (named : Named s.router s.reader name)
    (taken : s.stepStop move = some next) : Named next.router next.reader name := by
  cases stepStop_cases taken with
  | begun => exact named.frame named.table rfl rfl
  | @removed key => exact named.frame (named.table.delete key) rfl rfl
  | @closed c => exact named.close c
  | shown | missing | finished => exact named

end named

/-- The line is for a message that was read and has its identifier; that of a `nil` response has none. -/
def Line.Attributed (line : Line) (inputs : List Data) : Prop :=
  ∃ data, inputs[line.index]? = some data ∧ ∀ response, line.response = some response → response.id = data.id

/-- The goroutines work on messages that were read, and the lines are for such messages. -/
structure Router.Heard (r : Router) (inputs : List Data) : Prop where
  goroutines : ∀ c g, r.goroutines c = some g → g.job.Listed inputs
  lines : ∀ line ∈ r.lines, line.Attributed inputs

def Stage.Own (stage : Stage) (job : Job) : Prop := ∀ response, stage.response = some response → response.id = job.request.id

def Stdin.request : Stdin → Option Job
  | .limiting job => some job
  | .enqueue job => some job
  | .queued job => some job
  | .processing job _ => some job
  | _ => none

structure Stdin.Heard (stdin : Stdin) (inputs : List Data) : Prop where
  request : ∀ job, stdin.request = some job → job.Listed inputs
  report : ∀ index data err, stdin = .report index data err → inputs[index]? = some data
  own : ∀ job stage, stdin = .processing job stage → stage.Own job

structure Monitor.Heard (monitor : Monitor) (inputs : List Data) : Prop where
  jobs : ∀ job ∈ monitor.jobs, job.Listed inputs
  own : ∀ job stage rest, monitor = .processing job stage rest → stage.Own job

structure Attributed (s : State) : Prop where
  named : ∃ name, Named s.router s.reader name
  router : s.router.Heard s.inputs
  stdin : s.stdin.Heard s.inputs
  monitor : s.monitor.Heard s.inputs
  queue : ∀ job ∈ s.queue, job.Listed s.inputs

/-- Direct servers answer with a response that carries the identifier of the request. -/
def HonestServers (s : State) : Label → Prop
  | .stdin (.process (.answer (.response response))) =>
    ∀ job stage, s.stdin = .processing job stage → response.id = job.request.id
  | .monitor (.process (.answer (.response response))) =>
    ∀ job stage rest, s.monitor = .processing job stage rest → response.id = job.request.id
  | _ => True

open Stdin

open Monitor

section heard
variable {cfg : Config} {s next : State} {r router : Router} {inputs : List Data} {job : Job}
  {response : Option Response} {index : Nat}

theorem Job.Listed.attributed (listed : job.Listed inputs)
    (own : ∀ x, response = some x → x.id = job.request.id) : Line.Attributed ⟨job.index,response⟩ inputs :=
  ⟨job.data,listed.1,fun x same => (own x same).trans (Data.id_eq listed.2).symm⟩

theorem Router.Heard.write (heard : r.Heard inputs)
    (attributed : Line.Attributed ⟨index,response⟩ inputs) : (r.write index response).Heard inputs := by
  refine ⟨heard.goroutines,fun line member => ?_⟩
  rcases List.mem_cons.mp member with rfl | old
  · exact attributed
  · exact heard.lines line old

theorem Router.Heard.same (heard : r.Heard inputs) (goroutines : router.goroutines = r.goroutines)
    (lines : router.lines = r.lines) : router.Heard inputs := by
  refine ⟨?_,?_⟩
  · rw [goroutines]
    exact heard.goroutines
  · rw [lines]
    exact heard.lines

theorem Stage.step_heard {stage : Stage} {move : Move} {progress : Progress} (listed : job.Listed inputs)
    (own : stage.Own job) (honest : ∀ response, move = .answer (.response response) → response.id = job.request.id)
    (heard : r.Heard inputs) (taken : stage.step cfg job r move = some (progress,router)) :
    router.Heard inputs ∧ ∀ after, progress = .inside after → after.Own job := by
  refine ⟨⟨fun c g found => ?_,fun line member => ?_⟩,fun after inside response some => ?_⟩
  · obtain old | rfl := goroutine_of_step taken found
    · exact heard.goroutines c g old
    · exact listed
  · obtain ⟨-,-,same | ⟨mode,response,rfl,more⟩⟩ := step_outputs taken
    · exact heard.lines line (same ▸ member)
    · rcases List.mem_cons.mp (more ▸ member) with rfl | old
      · refine listed.attributed fun x same => ?_
        cases same
        exact own response rfl
      · exact heard.lines line old
  · subst inside
    exact (step_response taken some).elim (own response) (honest response)

variable {stdin : Stdin} {data : Data}

theorem Stdin.heard_done (done : stdin = .idle ∨ stdin = .exited) : stdin.Heard inputs := by
  rcases done with rfl | rfl
  all_goals exact ⟨fun _ same => (by cases same),fun _ _ _ same => (by cases same),fun _ _ same => by cases same⟩

theorem Stdin.heard_report (read : inputs[index]? = some data) (err : String) :
    (report index data err).Heard inputs := by
  refine ⟨fun _ same => (by cases same),fun _ _ _ same => ?_,fun _ _ same => by cases same⟩
  cases same
  exact read

theorem Stdin.heard_waiting (listed : job.Listed inputs)
    (waiting : stdin = .limiting job ∨ stdin = .enqueue job ∨ stdin = .queued job) : stdin.Heard inputs := by
  have request : stdin.request = some job := by rcases waiting with rfl | rfl | rfl <;> rfl
  refine ⟨fun other same => ?_,fun _ _ _ same => ?_,fun _ _ same => ?_⟩
  · cases request.symm.trans same
    exact listed
  all_goals rcases waiting with rfl | rfl | rfl <;> cases same

theorem Stdin.heard_resume {progress : Progress} (listed : job.Listed inputs)
    (own : ∀ after, progress = .inside after → after.Own job) : (resume job progress).Heard inputs := by
  rcases progress with stage | _ | err
  · refine ⟨fun other same => ?_,fun _ _ _ same => (by cases same),fun other after same => ?_⟩
    · cases same
      exact listed
    · cases same
      exact own stage rfl
  · exact heard_done (.inl rfl)
  · exact heard_report listed.1 err

theorem Monitor.heard_of_jobs {monitor : Monitor} (jobs : ∀ job ∈ monitor.jobs, job.Listed inputs)
    (waiting : ∀ job stage rest, monitor ≠ .processing job stage rest) : monitor.Heard inputs :=
  ⟨jobs,fun job stage rest same => absurd same (waiting job stage rest)⟩

theorem Monitor.heard_resume {rest : List Job} {progress : Progress} (listed : ∀ other ∈ job :: rest, other.Listed inputs)
    (own : ∀ after, progress = .inside after → after.Own job) : (resume job rest progress).Heard inputs := by
  refine ⟨by rw [resume_jobs]; exact listed,fun other stage others same => ?_⟩
  cases progress with
  | inside after =>
    cases same
    exact own _ rfl
  | returned err => cases same

theorem begun_own {after : Stage} (inside : processStdinMessageDirect cfg job.request = .inside after) :
    after.Own job := by
  intro response some
  unfold processStdinMessageDirect processRequestWithFallback at inside
  repeat' split at inside
  all_goals
    cases inside
    try cases some

theorem Line.Attributed.append {line : Line} (attributed : line.Attributed inputs) (more : List Data) :
    line.Attributed (inputs ++ more) := by
  obtain ⟨data,read,own⟩ := attributed
  refine ⟨data,?_,own⟩
  rw [List.getElem?_append_left (List.getElem?_eq_some_iff.mp read).1]
  exact read

section
variable (attributed : Attributed s)
include attributed

theorem Attributed.read (heard : stdin.Heard (s.inputs ++ [data])) : Attributed { s with stdin := stdin, inputs := s.inputs ++ [data] } where
  named := attributed.named
  router := ⟨fun c g found => (attributed.router.goroutines c g found).append _,
    fun line member => (attributed.router.lines line member).append _⟩
  stdin := heard
  monitor := ⟨fun job member => (attributed.monitor.jobs job member).append _,attributed.monitor.own⟩
  queue job member := (attributed.queue job member).append _

theorem Attributed.moveStdin {results : Nat → Slot (Option String)} {expired : Nat → Bool}
    (named : ∃ name, Named router s.reader name) (router_heard : router.Heard s.inputs) (heard : stdin.Heard s.inputs) :
    Attributed { s with router := router, stdin := stdin, results := results, expired := expired } :=
  ⟨named,router_heard,heard,attributed.monitor,attributed.queue⟩

theorem stepStdin_attributed {move : StdinMove} (honest : HonestServers s (.stdin move))
    (taken : s.stepStdin cfg move = some next) : Attributed next := by
  have new (data : Data) : (s.inputs ++ [data])[s.inputs.length]? = some data := by simp
  have listed {job : Job} (at_ : s.stdin.request = some job) : job.Listed s.inputs := attributed.stdin.request job at_
  have stays {stdin : Stdin} {results : Nat → Slot (Option String)} {expired : Nat → Bool}
      (heard : stdin.Heard s.inputs) :
      Attributed { s with stdin := stdin, results := results, expired := expired } :=
    attributed.moveStdin attributed.named attributed.router heard
  cases stepStdin_cases taken with
  | @malformed data cause at_ decoded =>
    exact attributed.read (heard_report (new data) _)
  | @accepted data request at_ decoded =>
    exact attributed.read (heard_waiting ⟨new data,decoded⟩ (.inl rfl))
  | @limited job cause at_ | @overflown job at_ full | @timedOut job at_ ended =>
    have own : job.Listed s.inputs := listed (by rw [at_]; rfl)
    exact stays (heard_report own.1 _)
  | @begun job at_ up => exact stays (heard_resume (listed (by rw [at_]; rfl)) fun after => begun_own)
  | @parked job at_ down =>
    exact stays (heard_waiting (listed (by rw [at_]; rfl)) (.inr (.inl rfl)))
  | @enqueued job at_ space =>
    have own : job.Listed s.inputs := listed (by rw [at_]; rfl)
    refine ⟨attributed.named,attributed.router,heard_waiting own (.inr (.inr rfl)),attributed.monitor,
      fun other member => ?_⟩
    rcases List.mem_append.mp member with old | new
    · exact attributed.queue other old
    · cases List.mem_singleton.mp new
      exact own
  | @resulted job err slot at_ received =>
    have heard : (resume job (.returned err.join)).Heard s.inputs :=
      heard_resume (listed (by rw [at_]; rfl)) fun _ same => by cases same
    exact stays heard
  | @processed job stage move progress router at_ moved =>
    obtain ⟨name,named⟩ := attributed.named
    have own : job.Listed s.inputs := listed (by rw [at_]; rfl)
    obtain ⟨heard,after⟩ := step_heard own (attributed.stdin.own job stage at_)
      (fun response same => by subst same; exact honest job stage at_) attributed.router moved
    exact attributed.moveStdin (step_named named moved) heard (heard_resume own after)
  | @reported index data err at_ room =>
    obtain ⟨name,named⟩ := attributed.named
    have read := attributed.stdin.report index data err at_
    refine attributed.moveStdin ⟨name,named.frame named.table rfl rfl⟩
      (attributed.router.write ⟨data,read,fun response same => ?_⟩) (heard_done (.inl rfl))
    cases same
    rfl
  | silenced at_ => exact stays (heard_done (.inl rfl))
  | left at_ => exact stays (heard_done (.inr rfl))

theorem stepMonitor_attributed {move : MonitorMove} (honest : HonestServers s (.monitor move))
    (taken : s.stepMonitor cfg move = some next) : Attributed next := by
  have jobs {rest : List Job} (at_ : s.monitor.jobs = rest) : ∀ job ∈ rest, job.Listed s.inputs := by
    subst at_
    exact attributed.monitor.jobs
  have stays {monitor : Monitor} {results : Nat → Slot (Option String)} (heard : monitor.Heard s.inputs) :
      Attributed { s with monitor := monitor, results := results } :=
    ⟨attributed.named,attributed.router,attributed.stdin,heard,attributed.queue⟩
  cases stepMonitor_cases taken with
  | woken at_ =>
    refine ⟨attributed.named,attributed.router,attributed.stdin,?_,fun _ member => by cases member⟩
    exact heard_of_jobs attributed.queue fun _ _ _ same => by cases same
  | noted at_ | rested at_ | left at_ =>
    exact stays (heard_of_jobs (fun _ member => by cases member) fun _ _ _ same => by cases same)
  | refused at_ | refusal at_ | sent at_ =>
    exact stays (heard_of_jobs (jobs (by rw [at_]; rfl)) fun _ _ _ same => by cases same)
  | begun at_ live uncancelled => exact stays (heard_resume (jobs (by rw [at_]; rfl)) fun after => begun_own)
  | @processed job stage rest move progress router at_ moved =>
    obtain ⟨name,named⟩ := attributed.named
    have own : ∀ other ∈ job :: rest, other.Listed s.inputs := jobs (by rw [at_]; rfl)
    obtain ⟨heard,after⟩ := step_heard (own job (List.mem_cons_self ..)) (attributed.monitor.own job stage rest at_)
      (fun response same => by subst same; exact honest job stage rest at_) attributed.router moved
    exact ⟨step_named named moved,heard,attributed.stdin,heard_resume own after,attributed.queue⟩
  | @closed job rest slot at_ closing =>
    have own : ∀ other ∈ job :: rest, other.Listed s.inputs := jobs (by rw [at_]; rfl)
    refine stays (heard_of_jobs (fun other member => ?_) fun _ _ _ same => by cases same)
    exact own other (List.mem_cons_of_mem _ member)
  | cleared at_ cancelled clearing =>
    refine ⟨attributed.named,attributed.router,attributed.stdin,?_,fun _ member => by cases member⟩
    exact heard_of_jobs (fun _ member => by cases member) fun _ _ _ same => by cases same
  | crashed panic =>
    obtain ⟨name,named⟩ := attributed.named
    exact ⟨⟨name,named.frame named.table rfl rfl⟩,attributed.router.same rfl rfl,attributed.stdin,attributed.monitor,
      attributed.queue⟩

theorem stepGateway_attributed {c : Nat} {move : GatewayMove} {g : Goroutine} {pc : GatewayPc}
    (found : s.router.goroutines c = some g) (moved : g.step cfg c s.router move = some (pc,router)) :
    Attributed { s with router := router.setPc c g pc } := by
  obtain ⟨name,named⟩ := attributed.named
  have listed := attributed.router.goroutines c g found
  have others := (Goroutine.step_goroutines moved).2
  refine ⟨⟨name,Goroutine.step_named named found moved⟩,⟨fun d g' found' => ?_,fun line member => ?_⟩,attributed.stdin,
    attributed.monitor,attributed.queue⟩
  · obtain ⟨_,rfl⟩ | ⟨_,old⟩ := Router.goroutine_of_setPc others found'
    · exact listed
    · exact attributed.router.goroutines d g' old
  · obtain ⟨_,same | ⟨x,at_,same⟩ | ⟨message,same⟩⟩ := Goroutine.step_lines moved
    · exact attributed.router.lines line (same ▸ member)
    · rcases List.mem_cons.mp (same ▸ member) with rfl | old
      · refine listed.attributed fun response some => ?_
        subst some
        exact Any.eq_of_key? (named.delivering c g response found at_) (named.spawned c g found).2
      · exact attributed.router.lines line old
    · rcases List.mem_cons.mp (same ▸ member) with rfl | old
      · refine listed.attributed fun response some => ?_
        cases some
        rfl
      · exact attributed.router.lines line old

theorem Attributed.untouched (named : ∃ name, Named next.router next.reader name) (same : Untouched s next) : Attributed next where
  named := named
  router := by
    rw [same.inputs]
    exact attributed.router.same same.goroutines same.lines
  stdin := by
    rw [same.stdin,same.inputs]
    exact attributed.stdin
  monitor := by
    rw [same.monitor,same.inputs]
    exact attributed.monitor
  queue := by
    rw [same.queue,same.inputs]
    exact attributed.queue

theorem step_attributed {label : Label} (honest : HonestServers s label) (stepped : step cfg s label = some next) : Attributed next := by
  obtain ⟨name,named⟩ := attributed.named
  cases (taken_of_step stepped).2 with
  | stdin moved => exact stepStdin_attributed attributed honest moved
  | monitor moved => exact stepMonitor_attributed attributed honest moved
  | reader moved => exact attributed.untouched ⟨name,stepReader_named named moved⟩ (stepReader_untouched moved).1
  | stop moved => exact attributed.untouched ⟨name,stepStop_named named moved⟩ (stepStop_untouched moved).1
  | gateway found moved => exact stepGateway_attributed attributed found moved
  | connection | expire => exact ⟨⟨name,named⟩,attributed.router,attributed.stdin,attributed.monitor,attributed.queue⟩
  | drain =>
    exact ⟨⟨name,named.frame named.table rfl rfl⟩,attributed.router.same rfl rfl,attributed.stdin,attributed.monitor,
      attributed.queue⟩

end

theorem start_attributed (connected : Bool) : Attributed (start connected) where
  named := ⟨fun _ => .null,.empty _ _,fun _ _ same => (by cases same),fun _ _ found => (by cases found),
    fun _ _ _ found => by cases found⟩
  router := ⟨fun _ _ found => (by cases found),fun _ member => by cases member⟩
  stdin := heard_done (.inl rfl)
  monitor := heard_of_jobs (fun _ member => by cases member) fun _ _ _ same => by cases same
  queue _ member := by cases member

theorem run_attributed {connected : Bool} {labels : List Label}
    (honest : Meets (step cfg) HonestServers (start connected) labels)
    (executed : run (step cfg) (start connected) labels = some s) : Attributed s :=
  run_keeps (fun _ _ _ attributed fine stepped => step_attributed attributed fine stepped) (start_attributed connected)
    honest executed

end heard

end McpBridge.MessageRouter
