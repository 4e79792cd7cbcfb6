import McpBridge.ChannelOwners

/-!
When the message router panics. A `sync.Map` panics on a key that is not hashable, and an identifier is any JSON value.
-/
namespace McpBridge.MessageRouter
open Values Channels Pending Runs State Function List

def Stdin.unqueued : Stdin → Option Job
  | .limiting job => some job
  | .enqueue job => some job
  | _ => none

@[simp] theorem Stdin.returned_unqueued (job : Job) (err : Option String) : (Stdin.returned job err).unqueued = none := by
  cases err <;> rfl

@[simp] theorem Stdin.resume_unqueued (job : Job) (progress : Progress) :
    (Stdin.resume job progress).unqueued = none := by
  cases progress with
  | inside stage => rfl
  | returned err => exact Stdin.returned_unqueued job err

/-- A queued request's result channel is closed once, by the goroutine that works the queue off. -/
structure Results (s : State) : Prop where
  once : s.waiting.Nodup
  read : ∀ i ∈ s.waiting, i < s.inputs.length
  opened : ∀ i ∈ s.waiting, (s.results i).closed = false
  beyond : ∀ i, s.inputs.length ≤ i → (s.results i).closed = false
  ahead : ∀ job, s.stdin.unqueued = some job →
    job.index < s.inputs.length ∧ job.index ∉ s.waiting ∧ (s.results job.index).closed = false

structure Accounts (s : State) : Prop where
  table : Owned s.router.pendingReqs s.held
  spawned : s.router.Spawned
  /-- A channel that `Range` showed has no other key. -/
  shown : ∀ key c visited channels, s.stop = .shown key c visited channels →
    c < s.router.pendingReqs.fresh ∧ ∀ k, s.router.pendingReqs.entries k = some c → k = key
  results : Results s

theorem Results.frame {s next : State} (results : Results s) (waiting : next.waiting = s.waiting)
    (closed : ∀ i, (next.results i).closed = (s.results i).closed) (inputs : next.inputs = s.inputs)
    (ahead : next.stdin.unqueued = none ∨ next.stdin.unqueued = s.stdin.unqueued) : Results next := by
  constructor
  · rw [waiting]
    exact results.once
  · rw [waiting,inputs]
    exact results.read
  · intro i member
    rw [closed]
    exact results.opened i (waiting ▸ member)
  · intro i le
    rw [closed]
    exact results.beyond i (inputs ▸ le)
  · intro job at_
    rw [waiting,inputs,closed]
    rcases ahead with none | same
    · rw [none] at at_
      cases at_
    · exact results.ahead job (same ▸ at_)

variable {expired : Nat → Bool} {stdin : Stdin}

theorem Results.moveStdin {s : State} {router : Router} (results : Results s)
    (ahead : stdin.unqueued = none ∨ stdin.unqueued = s.stdin.unqueued) :
    Results { s with router := router, stdin := stdin, expired := expired } :=
  results.frame rfl (fun _ => rfl) rfl ahead

variable {router : Router} {queue : List Job} {monitor : Monitor} {reader : Reader}

theorem Results.untouched {s : State} {stop : Stop} {connected : Bool} (results : Results s) :
    Results { s with
      router := router, reader := reader, stop := stop, connected := connected, expired := expired } :=
  results.frame rfl (fun _ => rfl) rfl (.inr rfl)

theorem Results.moveMonitor {s : State} (results : Results s)
    (same : monitor.jobs ++ queue = s.monitor.jobs ++ s.queue) :
    Results { s with router := router, monitor := monitor, queue := queue } :=
  results.frame (congrArg (map Job.index) same) (fun _ => rfl) rfl (.inr rfl)

section accounts
variable {cfg : Config} {s next : State} {job : Job}

theorem Results.readMessage {data : Data} (results : Results s)
    (new : ∀ job, stdin.unqueued = some job → job.index = s.inputs.length) :
    Results { s with stdin := stdin, inputs := s.inputs ++ [data] } := by
  refine ⟨results.once,?_,results.opened,?_,?_⟩
  · intro i member
    exact Nat.lt_of_lt_of_le (results.read i member) (by simp)
  · intro i le
    refine results.beyond i (Nat.le_trans ?_ le)
    simp
  · intro job reading
    rw [new job reading]
    refine ⟨by simp,?_,results.beyond _ (Nat.le_refl _)⟩
    exact fun member => Nat.lt_irrefl _ (results.read _ member)

theorem Results.enqueue (results : Results s)
    (ahead : job.index < s.inputs.length ∧ job.index ∉ s.waiting ∧ (s.results job.index).closed = false) :
    Results { s with stdin := .queued job, queue := s.queue ++ [job] } := by
  have waiting : waiting { s with stdin := .queued job, queue := s.queue ++ [job] } = s.waiting ++ [job.index] := by
    simp [waiting]
  have member_of : ∀ i ∈ s.waiting ++ [job.index], i ∈ s.waiting ∨ i = job.index := by simp
  constructor
  · rw [waiting,← concat_eq_append]
    exact List.Nodup.concat ahead.2.1 results.once
  · rw [waiting]
    intro i member
    rcases member_of i member with old | rfl
    · exact results.read i old
    · exact ahead.1
  · rw [waiting]
    intro i member
    rcases member_of i member with old | rfl
    · exact results.opened i old
    · exact ahead.2.2
  · exact results.beyond
  · intro other reading
    cases reading

theorem Results.cleared {cleared : Nat → Slot (Option String)} (results : Results s) (idle : s.monitor.jobs = [])
    (others : ∀ i, i ∉ s.queue.map Job.index → cleared i = s.results i) :
    Results { s with monitor := .exited, queue := [], results := cleared } := by
  have waiting : s.waiting = s.queue.map Job.index := by simp [waiting,idle]
  constructor
  · exact nodup_nil
  · exact fun i member => by cases member
  · exact fun i member => by cases member
  · intro i le
    have outside : i ∉ s.queue.map Job.index := fun member =>
      absurd (results.read i (waiting ▸ member)) (Nat.not_lt.mpr le)
    simpa only [others i outside] using results.beyond i le
  · intro job reading
    obtain ⟨read,free,stays⟩ := results.ahead job reading
    refine ⟨read,not_mem_nil,?_⟩
    simpa only [others _ (waiting ▸ free)] using stays

section
variable (accounts : Accounts s) {channels : Nat → Slot (Option String)}
include accounts

theorem Accounts.change (h : Holder) (table : Owned next.router.pendingReqs (update s.held h (next.held h)))
    (others : ∀ j, j ≠ h → next.held j = s.held j) (later : Later s.router.pendingReqs next.router.pendingReqs)
    (spawned : next.router.Spawned) (stop : next.stop = s.stop) (results : Results next) : Accounts next where
  table := by
    have same : next.held = update s.held h (next.held h) := eq_update_iff.mpr ⟨rfl,others⟩
    rw [same]
    exact table
  spawned := spawned
  shown key c visited channels at_ := by
    obtain ⟨made,only⟩ := accounts.shown key c visited channels (stop ▸ at_)
    exact ⟨Nat.lt_of_lt_of_le made later.fresh,fun k found => only k (later.old made found)⟩
  results := results

theorem Accounts.quiet (table : next.router.pendingReqs = s.router.pendingReqs)
    (goroutines : next.router.goroutines = s.router.goroutines) (stdin : next.stdin.held = s.stdin.held)
    (monitor : next.monitor.held = s.monitor.held) (reader : next.reader.held = s.reader.held)
    (stop : next.stop = s.stop) (results : Results next) : Accounts next := by
  have same : next.held = s.held := by
    funext h
    cases h with
    | stdin => exact stdin
    | monitor => exact monitor
    | reader => exact reader
    | gateway c => simp [held,Router.heldBy,goroutines]
    | stop => simp [held,stop]
  constructor
  · rw [table,same]
    exact accounts.table
  · unfold Router.Spawned
    rw [table,goroutines]
    exact accounts.spawned
  · rw [table,stop]
    exact accounts.shown
  · exact results

theorem Accounts.process {h : Holder} {stage : Stage} {move : Move} {progress : Progress}
    (running : s.router.panic = none) (holds : s.held h = stage.held)
    (moved : stage.step cfg job s.router move = some (progress,next.router)) (own : next.held h = progress.held)
    (others : ∀ j, j ≠ h → (∀ c, j ≠ .gateway c) → next.held j = s.held j) (stop : next.stop = s.stop)
    (results : Results next) :
    Accounts next ∧ (next.router.panic = none ↔ (stage.hashes move → job.request.id.Hashable)) := by
  obtain ⟨owned,panics⟩ := Stage.step_owned accounts.table holds running moved
  obtain ⟨spawned,same⟩ := Stage.step_spawned accounts.spawned moved
  refine ⟨accounts.change h (own ▸ owned) ?_ (Stage.step_goroutines moved).1 spawned stop results,panics⟩
  intro j other
  cases j with
  | gateway c => exact congrFun same c
  | stdin | monitor | reader | stop => exact others _ other nofun

theorem Accounts.moveStdin
    {inputs : List Data} (same : stdin.held = s.stdin.held) (results : Results { s with
      stdin := stdin, queue := queue, results := channels, expired := expired, inputs := inputs }) :
    Accounts { s with stdin := stdin, queue := queue, results := channels, expired := expired, inputs := inputs } :=
  accounts.quiet rfl rfl same rfl rfl rfl results

theorem Accounts.moveMonitor
    (same : monitor.held = s.monitor.held)
    (results : Results { s with monitor := monitor, queue := queue, results := channels }) :
    Accounts { s with monitor := monitor, queue := queue, results := channels } :=
  accounts.quiet rfl rfl rfl same rfl rfl results

end

/-- The identifier that the step uses as a key of `pendingReqs`. -/
def hashed (s : State) : Label → Option Any
  | .stdin (.process move) =>
    match s.stdin with
    | .processing job stage => if stage.hashes move then some job.request.id else none
    | _ => none
  | .monitor (.process move) =>
    match s.monitor with
    | .processing job stage _ => if stage.hashes move then some job.request.id else none
    | _ => none
  | .reader .route =>
    match s.reader with
    | .routing response => some response.id
    | _ => none
  | .gateway c move =>
    (s.router.goroutines c).bind fun g => if g.hashes move then some g.job.request.id else none
  | _ => none

def HashesWell (s : State) (label : Label) : Prop := ∀ id, hashed s label = some id → id.Hashable

variable {label : Label} {slot : Slot (Option String)} {move : MonitorMove} {rest : List Job} {id : Any}

theorem hashesWell_of_none (none : hashed s label = none) : HashesWell s label := by
  intro id same
  rw [none] at same
  cases same

theorem hashesWell_of_some (some : hashed s label = some id) (hashable : id.Hashable) :
    HashesWell s label := by
  intro other same
  rw [some] at same
  cases same
  exact hashable

private theorem hashable_ite {condition : Bool} :
    (∀ other, (if condition then some id else none) = some other → other.Hashable) ↔ (condition → id.Hashable) := by
  cases condition <;> simp

/-- The result of the request at the head is written or its channel closed; then it is done. -/
theorem Results.finish (results : Results s)
    (at_ : s.monitor = .close job rest) : Results { s.setResult job.index slot with monitor := .next rest } := by
  have waiting : s.waiting = job.index :: (rest ++ s.queue).map Job.index := by
    rw [waiting,at_]
    rfl
  obtain ⟨absent,once⟩ := nodup_cons.mp (waiting ▸ results.once)
  have older : ∀ i ∈ (rest ++ s.queue).map Job.index, i ∈ s.waiting := by
    rw [waiting]
    exact fun i member => mem_cons_of_mem _ member
  have same : ∀ i, i ≠ job.index → update s.results job.index slot i = s.results i :=
    fun i other => update_of_ne other ..
  have bound : job.index < s.inputs.length := results.read _ (by rw [waiting]; exact mem_cons_self ..)
  constructor
  · exact once
  · exact fun i member => results.read i (older i member)
  · intro i member
    have other : i ≠ job.index := fun equal => absent (equal ▸ member)
    simpa only [setResult,same i other] using results.opened i (older i member)
  · intro i le
    have other : i ≠ job.index := by
      rintro rfl
      exact absurd bound (Nat.not_lt.mpr le)
    simpa only [setResult,same i other] using results.beyond i le
  · intro other reading
    obtain ⟨read,free,stays⟩ := results.ahead other reading
    refine ⟨read,fun member => free (older _ member),?_⟩
    have outside : other.index ≠ job.index := by
      intro equal
      rw [equal,waiting] at free
      exact free (mem_cons_self ..)
    simpa only [setResult,same _ outside] using stays

theorem Results.send (results : Results s)
    (jobs : s.monitor.jobs = job :: rest) (stays : slot.closed = false) :
    Results { s.setResult job.index slot with monitor := .close job rest } := by
  have first : (s.results job.index).closed = false := results.opened _ (by simp [waiting,jobs])
  refine results.frame (by simp only [waiting,setResult,jobs]; rfl) (fun i => ?_) rfl (.inr rfl)
  simp only [setResult,update_apply]
  split
  next same => rw [same,stays,first]
  next => rfl

theorem stepStdin_results {move : StdinMove} (results : Results s) (taken : s.stepStdin cfg move = some next) :
    Results next := by
  cases stepStdin_cases taken with
  | malformed at_ decoded => exact results.readMessage (fun job reading => by cases reading)
  | accepted at_ decoded => exact results.readMessage (fun job reading => by cases reading; rfl)
  | begun | processed => exact results.moveStdin (.inl (Stdin.resume_unqueued _ _))
  | parked at_ down => exact results.moveStdin (.inr (by rw [at_]; rfl))
  | @enqueued job at_ space => exact results.enqueue (results.ahead job (by rw [at_]; rfl))
  | resulted at_ received =>
    refine results.frame rfl (fun i => ?_) rfl (.inl (Stdin.returned_unqueued _ _))
    simp only [update_apply]
    split
    next same => rw [Slot.eq_of_receive received,same]
    next => rfl
  | limited | overflown | timedOut | reported | silenced | left => exact results.moveStdin (.inl rfl)

theorem unhashed {label : Label} (free : hashed s label = none) (running : next.router.panic = none) :
    next.router.panic = none ↔ HashesWell s label :=
  iff_of_true running (hashesWell_of_none free)

theorem stepStdin_accounts {move : StdinMove} (accounts : Accounts s) (running : s.router.panic = none)
    (taken : s.stepStdin cfg move = some next) :
    Accounts next ∧ (next.router.panic = none ↔ HashesWell s (.stdin move)) := by
  have results := stepStdin_results accounts.results taken
  cases stepStdin_cases taken with
  | malformed at_ | accepted at_ | limited at_ | parked at_ | overflown at_ | enqueued at_ | timedOut at_ | silenced at_
  | left at_ => exact ⟨accounts.moveStdin (by rw [at_]; rfl) results,unhashed rfl running⟩
  | begun at_ up =>
    exact ⟨accounts.moveStdin (by rw [at_,Stdin.resume_held]; simp [Stdin.held]) results,unhashed rfl running⟩
  | resulted at_ received =>
    exact ⟨accounts.moveStdin (by rw [at_,Stdin.returned_held]; rfl) results,unhashed rfl running⟩
  | @processed job stage move progress router at_ moved =>
    have holds : s.held .stdin = stage.held := by simp only [held,at_,Stdin.held]
    simp only [HashesWell,hashed,at_,hashable_ite]
    refine accounts.process running holds moved (Stdin.resume_held job progress) (fun j other remote => ?_) rfl results
    cases j with
    | stdin => exact absurd rfl other
    | gateway c => exact absurd rfl (remote c)
    | monitor | reader | stop => rfl
  | reported at_ room => exact ⟨accounts.quiet rfl rfl (by rw [at_]; rfl) rfl rfl rfl results,unhashed rfl running⟩

theorem stepMonitor_results (results : Results s) (taken : s.stepMonitor cfg move = some next) :
    Results next := by
  have stays {i : Nat} {err : Option String} {slot : Slot (Option String)} (waits : i ∈ s.waiting)
      (offered : (s.results i).offer err = .ok slot) : slot.closed = false := by
    obtain ⟨other,same,opened⟩ := Slot.offer_of_open err (results.opened i waits)
    rw [offered] at same
    cases same
    exact opened
  cases stepMonitor_cases taken with
  | woken at_ | noted at_ | rested at_ | refused at_ | left at_ =>
    exact results.moveMonitor (by simp [at_,Monitor.jobs])
  | begun at_ | processed at_ => exact results.moveMonitor (by rw [Monitor.resume_jobs,at_]; rfl)
  | refusal at_ offered | sent at_ offered =>
    exact results.send (by rw [at_]; rfl) (stays (by simp [waiting,at_,Monitor.jobs]) offered)
  | closed at_ closing => exact results.finish at_
  | cleared at_ cancelled clearing =>
    have waiting : s.waiting = s.queue.map Job.index := by simp [waiting,at_,Monitor.jobs]
    obtain ⟨cleared,run,others⟩ := clear_ok "router shutting down" s.queue s.results (waiting ▸ results.once)
      (waiting ▸ results.opened)
    rw [clearing] at run
    cases run
    exact results.cleared (by rw [at_]; rfl) others
  | crashed => exact results.untouched

section
variable (accounts : Accounts s)
include accounts

theorem stepMonitor_accounts (running : s.router.panic = none)
    (taken : s.stepMonitor cfg move = some next) :
    Accounts next ∧ (next.router.panic = none ↔ HashesWell s (.monitor move)) := by
  have results := stepMonitor_results accounts.results taken
  cases stepMonitor_cases taken with
  | woken at_ | noted at_ | rested at_ | refused at_ | refusal at_ | sent at_ | closed at_ | cleared at_ | left at_ =>
    exact ⟨accounts.moveMonitor (by rw [at_]; rfl) results,unhashed rfl running⟩
  | begun at_ live uncancelled =>
    exact ⟨accounts.moveMonitor (by rw [at_,Monitor.resume_held,processStdinMessageDirect_held]; rfl) results,
      unhashed rfl running⟩
  | @processed job stage rest move progress router at_ moved =>
    have holds : s.held .monitor = stage.held := by simp only [held,at_,Monitor.held]
    simp only [HashesWell,hashed,at_,hashable_ite]
    refine accounts.process running holds moved (Monitor.resume_held job rest progress) (fun j other remote => ?_) rfl
      results
    cases j with
    | monitor => exact absurd rfl other
    | gateway c => exact absurd rfl (remote c)
    | stdin | reader | stop => rfl
  | crashed panic answering broken => exact absurd ⟨accounts.results.once,accounts.results.opened⟩ broken

theorem Accounts.moveReader (owned : Owned router.pendingReqs (update s.held .reader reader.held))
    (later : Later s.router.pendingReqs router.pendingReqs) (goroutines : router.goroutines = s.router.goroutines) :
    Accounts { s with reader := reader, router := router } := by
  refine accounts.change .reader owned ?_ later (accounts.spawned.of_later later goroutines) rfl
    accounts.results.untouched
  intro j other
  cases j with
  | reader => exact absurd rfl other
  | stdin | monitor | stop => rfl
  | gateway d => simp [held,Router.heldBy,goroutines]

theorem stepReader_accounts {move : ReaderMove} (running : s.router.panic = none)
    (taken : s.stepReader move = some next) :
    Accounts next ∧ (next.router.panic = none ↔ HashesWell s (.reader move)) := by
  have results := accounts.results
  have panics {response : Response} (at_ : s.reader = .routing response) :
      (s.router.delete response.id).panic = none ↔ HashesWell s (.reader .route) := by
    simp [HashesWell,hashed,at_]
    exact Router.delete_panic running
  cases stepReader_cases taken with
  | nothing at_ => exact ⟨accounts,unhashed rfl running⟩
  | received at_ | left at_ | undelivered at_ =>
    exact ⟨accounts.quiet rfl rfl rfl rfl (by rw [at_]; rfl) rfl results.untouched,unhashed rfl running⟩
  | routed at_ found =>
    have holds : s.held .reader = [] := by simp only [held,at_,Reader.held]
    have owned := Router.delete_owned accounts.table holds found
    exact ⟨accounts.moveReader owned Router.delete_later Router.delete_goroutines,panics at_⟩
  | unrouted at_ absent =>
    exact ⟨accounts.quiet (Router.delete_of_load_eq_none absent) Router.delete_goroutines rfl rfl
      (by rw [at_]; rfl) rfl results.untouched,panics at_⟩
  | @delivered c response at_ =>
    have holds : s.held .reader = [c] := by simp only [held,at_,Reader.held]
    obtain ⟨owned,same⟩ := Router.offer_owned accounts.table (i := .reader) response
      (by rw [holds]; exact mem_singleton_self c)
    refine ⟨accounts.moveReader ?_ (Router.offer_later c response) (Router.offer_goroutines c response),
      unhashed rfl (same.trans running)⟩
    rw [show (Reader.closing c).held = s.held .reader from holds.symm,update_eq_self]
    exact owned
  | @closed c at_ =>
    have holds : s.held .reader = [c] := by simp only [held,at_,Reader.held]
    obtain ⟨owned,same⟩ := Router.close_owned accounts.table holds
    exact ⟨accounts.moveReader owned (Router.close_later c) (Router.close_goroutines c),unhashed rfl (same.trans running)⟩

theorem stepGateway_accounts {c : Nat} {move : GatewayMove} {g : Goroutine} {pc : GatewayPc}
    (running : s.router.panic = none) (found : s.router.goroutines c = some g)
    (stepped : g.step cfg c s.router move = some (pc,router)) :
    Accounts { s with router := router.setPc c g pc } ∧ (router.panic = none ↔ HashesWell s (.gateway c move)) := by
  have made := accounts.spawned c g found
  have holds : s.held (.gateway c) = g.pc.held := by simp only [held,Router.heldBy,found,Option.elim_some]
  obtain ⟨owned,panics⟩ := Goroutine.step_owned accounts.table holds made running stepped
  obtain ⟨later,others⟩ := Goroutine.step_goroutines stepped
  refine ⟨accounts.change (.gateway c) ?_ ?_ later ?_ rfl accounts.results.untouched,?_⟩
  · simpa only [held,Router.heldBy,Router.setPc,update_self,Option.elim_some] using owned
  · intro j other
    cases j with
    | stdin | monitor | reader | stop => rfl
    | gateway d =>
      have outside : d ≠ c := fun equal => other (equal ▸ rfl)
      simp only [held,Router.heldBy,Router.setPc,others,update_of_ne outside]
  · intro d g' listed
    refine Nat.lt_of_lt_of_le ?_ later.fresh
    rcases Router.goroutine_of_setPc others listed with ⟨rfl,_⟩ | ⟨_,old⟩
    · exact made
    · exact accounts.spawned d g' old
  · simp only [HashesWell,hashed,found,Option.bind_some,hashable_ite]
    exact panics

end

/-- The channel that `Range` showed to `Stop` is open, nobody holds it, and the entry has it or a later request's. -/
def Removable (s : State) : Prop :=
  ∀ key c visited channels, s.stop = .shown key c visited channels → (s.router.pendingReqs.entries key).isSome →
    (s.router.pendingReqs.slots c).closed = false ∧ ∀ h, c ∉ s.held h

/-- A change of what `Stop` has to close, and of the map with it. -/
theorem Accounts.changeStop (accounts : Accounts s)
    (table : Owned next.router.pendingReqs (update s.held .stop next.stop.held))
    (goroutines : next.router.goroutines = s.router.goroutines) (stdin : next.stdin = s.stdin)
    (monitor : next.monitor = s.monitor) (reader : next.reader = s.reader)
    (later : Later s.router.pendingReqs next.router.pendingReqs)
    (shown : ∀ key c visited channels, next.stop = .shown key c visited channels →
      s.router.pendingReqs.entries key = some c ∧ next.router.pendingReqs = s.router.pendingReqs)
    (results : Results next) : Accounts next where
  table := by
    have same : next.held = update s.held .stop next.stop.held := by
      refine eq_update_iff.mpr ⟨rfl,fun h other => ?_⟩
      cases h with
      | stop => exact absurd rfl other
      | stdin => simp [held,stdin]
      | monitor => simp [held,monitor]
      | reader => simp [held,reader]
      | gateway c => simp [held,Router.heldBy,goroutines]
    rw [same]
    exact table
  spawned := accounts.spawned.of_later later goroutines
  shown key c visited channels at_ := by
    obtain ⟨entry,same⟩ := shown key c visited channels at_
    rw [same]
    exact ⟨accounts.table.made key c entry,fun k found => accounts.table.single k key c found entry⟩
  results := results

theorem stepStop_accounts {move : StopMove} (accounts : Accounts s) (running : s.router.panic = none)
    (removable : move = .remove → Removable s) (taken : s.stepStop move = some next) :
    Accounts next ∧ next.router.panic = none := by
  have results := accounts.results
  -- The table and the channels to close are as before.
  have idle : ∀ {stop : Stop}, stop.held = s.stop.held → Owned s.router.pendingReqs
      (update s.held .stop stop.held) := by
    intro stop same
    rw [same,show s.stop.held = s.held .stop from rfl,update_eq_self]
    exact accounts.table
  cases stepStop_cases taken with
  | begun at_ | missing at_ | finished at_ =>
    exact ⟨accounts.changeStop (idle (by rw [at_]; rfl)) rfl rfl rfl rfl (.refl _) (by simp) results.untouched,running⟩
  | shown at_ new found =>
    refine ⟨accounts.changeStop (idle (by rw [at_]; rfl)) rfl rfl rfl rfl (.refl _) ?_ results.untouched,running⟩
    intro key c visited channels same
    cases same
    exact ⟨found,rfl⟩
  | @removed key c d visited channels at_ found =>
    obtain ⟨made,only⟩ := accounts.shown key c visited channels at_
    obtain ⟨stays,free⟩ := removable rfl key c visited channels at_ (by rw [found]; rfl)
    have held : s.held .stop = channels := by simp only [held,at_,Stop.held]
    refine ⟨accounts.changeStop ?_ rfl rfl rfl rfl (.delete _ _) (by simp) results.untouched,running⟩
    rw [show (Stop.ranging visited (channels ++ [c])).held = s.held .stop ++ [c] by rw [held]; rfl]
    refine (accounts.table.forget key).adopt .stop made stays (fun k listed => ?_) free
    rw [Table.delete_entries] at listed
    split at listed
    next => cases listed
    next other => exact other (only k listed)
  | @closed c rest at_ =>
    have holds : s.held .stop = c :: rest := by simp only [held,at_,Stop.held]
    obtain ⟨owned,same⟩ := Router.close_owned accounts.table holds
    exact ⟨accounts.changeStop owned (Router.close_goroutines c) rfl rfl rfl (Router.close_later c) (by simp)
      results.untouched,same.trans running⟩

/-- The step uses no unhashable key, and `Stop` takes no channel that somebody else closes. -/
def Harmless (s : State) (label : Label) : Prop := HashesWell s label ∧ (label = .stop .remove → Removable s)

/-- A step keeps the account and panics only on an unhashable key, unless `Stop` takes another's channel. -/
theorem step_accounts (accounts : Accounts s) (removable : label = .stop .remove → Removable s)
    (taken : step cfg s label = some next) : Accounts next ∧ (next.router.panic = none ↔ HashesWell s label) := by
  obtain ⟨running,way⟩ := taken_of_step taken
  have results := accounts.results
  cases way with
  | stdin moved => exact stepStdin_accounts accounts running moved
  | monitor moved => exact stepMonitor_accounts accounts running moved
  | reader moved => exact stepReader_accounts accounts running moved
  | gateway found moved => exact stepGateway_accounts accounts running found moved
  | stop moved =>
    obtain ⟨kept,fine⟩ := stepStop_accounts accounts running (fun same => removable (same ▸ rfl)) moved
    exact ⟨kept,unhashed rfl fine⟩
  | connection | expire | drain =>
    exact ⟨accounts.quiet rfl rfl rfl rfl rfl rfl results.untouched,unhashed rfl running⟩

theorem start_accounts (up : Bool) : Accounts (start up) where
  table := by
    have nothing : (start up).held = fun _ => [] := by
      funext h
      cases h <;> rfl
    rw [nothing]
    exact Owned.empty
  spawned c g found := by cases found
  shown key c visited channels at_ := by cases at_
  results := by
    refine ⟨nodup_nil,?_,?_,fun _ _ => rfl,?_⟩
    · exact fun i member => by cases member
    · exact fun i member => by cases member
    · exact fun job reading => by cases reading

end accounts

/-- The message `{"jsonrpc":"2.0","method":…,"id":…}`. -/
def message (method : String) (id : Any) : Data :=
  .json (.object [("jsonrpc",.string "2.0"),("method",.string method),("id",id)])

def toolsList (id : Any) : Data := message "tools/list" id

def gatewayRequest (id : Any) : List Label :=
  [.stdin (.read (toolsList id)),.stdin (.limit none),.stdin (.process .go)]

/-! ### A channel with two owners -/

/-- Somebody other than `Stop` closes the channel, or `Stop` closes it twice. -/
def Contested (s : State) (earlier : List Nat) (c : Nat) : Prop :=
  (s.router.pendingReqs.slots c).closed = true ∨ c ∈ earlier ∨ ∃ h, h ≠ .stop ∧ c ∈ s.held h

section contested
variable {cfg : Config} {s : State} {c : Nat}

variable {r : Router}

theorem Router.close_closed (closed : (r.pendingReqs.slots c).closed = true) :
    r.close c = r.crash (.channel .closeOfClosed) := by
  simp only [Router.close,Table.close,Slot.close,closed]
  rfl

theorem Router.close_open (stays : (r.pendingReqs.slots c).closed = false) :
    r.close c = { r with pendingReqs := r.pendingReqs.setSlot c { r.pendingReqs.slots c with closed := true } } := by
  simp only [Router.close,Table.close,Slot.close,stays]
  rfl

private theorem step_running (running : s.router.panic = none) {move : StopMove} :
    step cfg s (.stop move) = s.stepStop move := by
  simp [step,running]

/-- Whoever holds a closed channel panics with its next step. -/
theorem held_closed_panics (cfg : Config) {h : Holder} (running : s.router.panic = none) (other : h ≠ .stop)
    (closed : (s.router.pendingReqs.slots c).closed = true) (member : c ∈ s.held h) :
    ∃ label next cause, step cfg s label = some next ∧ next.router.panic = some (.channel cause) := by
  cases h with
  | stop => exact absurd rfl other
  | stdin =>
    simp only [held,Stdin.held] at member
    split at member
    next job stage at_ =>
      cases stage with
      | close mode d after =>
        cases mem_singleton.mp member
        refine ⟨.stdin (.process .go),_,.closeOfClosed,by simp [step,running,stepStdin,at_,Stage.step]; rfl,?_⟩
        simp [Router.close_closed closed,Router.crash]
      | _ => cases member
    next => cases member
  | monitor =>
    simp only [held,Monitor.held] at member
    split at member
    next job stage rest at_ =>
      cases stage with
      | close mode d after =>
        cases mem_singleton.mp member
        refine ⟨.monitor (.process .go),_,.closeOfClosed,by simp [step,running,stepMonitor,at_,Stage.step]; rfl,?_⟩
        simp [Router.close_closed closed,Router.crash]
      | _ => cases member
    next => cases member
  | reader =>
    simp only [held,Reader.held] at member
    split at member
    next d response at_ =>
      cases mem_singleton.mp member
      refine ⟨.reader .deliver,_,.sendOnClosed,by simp [step,running,stepReader,at_]; rfl,?_⟩
      simp [Router.offer,Table.offer,Slot.offer,closed,Except.map,Router.crash]
    next d at_ =>
      cases mem_singleton.mp member
      refine ⟨.reader .close,_,.closeOfClosed,by simp [step,running,stepReader,at_]; rfl,?_⟩
      simp [Router.close_closed closed,Router.crash]
    next => cases member
  | gateway d =>
    simp only [held,Router.heldBy] at member
    cases found : s.router.goroutines d with
    | none => rw [found] at member; cases member
    | some g =>
      obtain ⟨job,pc⟩ := g
      rw [found] at member
      cases pc with
      | close e after =>
        cases mem_singleton.mp member
        refine ⟨.gateway d .go,_,.closeOfClosed,by simp [step,running,stepGateway,found,Goroutine.step]; rfl,?_⟩
        simp [Router.close_closed closed,Router.crash,Router.setPc]
      | _ => cases member

theorem Contested.close {d : Nat} {rest channels : List Nat} (contested : Contested s (d :: rest) c) :
    Contested { s with
      stop := .closing channels
      router := { s.router with
        pendingReqs := s.router.pendingReqs.setSlot d { s.router.pendingReqs.slots d with closed := true } } } rest c := by
  rcases contested with yes | listed | ⟨h,other,member⟩
  · refine .inl ?_
    simp only [Table.setSlot_slots]
    split
    · rfl
    · exact yes
  · rcases mem_cons.mp listed with rfl | later
    · exact .inl (by simp [Table.setSlot_slots])
    · exact .inr (.inl later)
  · exact .inr (.inr ⟨h,other,by cases h <;> first | exact absurd rfl other | exact member⟩)

/-- `Stop` closes its channels one by one; a contested one makes somebody panic. -/
theorem closing_contested_panics (earlier : List Nat) (running : s.router.panic = none)
    (at_ : s.stop = .closing (earlier ++ [c])) (contested : Contested s earlier c) :
    ∃ more u cause, run (step cfg) s more = some u ∧ u.router.panic = some (.channel cause) := by
  have single : ∀ {label next cause}, step cfg s label = some next → next.router.panic = some (.channel cause) →
      ∃ more u cause, run (step cfg) s more = some u ∧ u.router.panic = some (.channel cause) :=
    fun {label next cause} taken panics => ⟨[label],next,cause,run_cons_eq_some.mpr ⟨next,taken,rfl⟩,panics⟩
  induction earlier generalizing s with
  | nil =>
    have taken : step cfg s (.stop .close) = some { s with stop := .closing [], router := s.router.close c } := by
      rw [step_running running,stepStop,at_]
      rfl
    cases closed : (s.router.pendingReqs.slots c).closed with
    | true =>
      have crashed : (s.router.close c).panic = some (.channel .closeOfClosed) := by
        rw [Router.close_closed closed]
        rfl
      exact single taken crashed
    | false =>
      rcases contested with yes | listed | ⟨h,other,member⟩
      · rw [closed] at yes
        cases yes
      · cases listed
      · rw [Router.close_open closed] at taken
        obtain ⟨label,next,cause,second,panics⟩ := held_closed_panics cfg (c := c) (h := h)
          (s := { s with
            stop := .closing []
            router := { s.router with
              pendingReqs := s.router.pendingReqs.setSlot c { s.router.pendingReqs.slots c with closed := true } } })
          running other (by simp [Table.setSlot_slots]) (by cases h <;> first | exact absurd rfl other | exact member)
        exact ⟨[.stop .close,label],next,cause,run_cons_eq_some.mpr ⟨_,taken,run_cons_eq_some.mpr ⟨next,second,rfl⟩⟩,panics⟩
  | cons d rest ih =>
    have taken : step cfg s (.stop .close) =
        some { s with stop := .closing (rest ++ [c]), router := s.router.close d } := by
      rw [step_running running,stepStop,at_]
      rfl
    cases closed : (s.router.pendingReqs.slots d).closed with
    | true =>
      have crashed : (s.router.close d).panic = some (.channel .closeOfClosed) := by
        rw [Router.close_closed closed]
        rfl
      exact single taken crashed
    | false =>
      rw [Router.close_open closed] at taken
      have stays := @Contested.close s c d rest (rest ++ [c]) contested
      obtain ⟨more,u,cause,executed,panics⟩ := ih (by exact running) (by rfl) stays
        (fun {label next cause} taken panics => ⟨[label],next,cause,run_cons_eq_some.mpr ⟨next,taken,rfl⟩,panics⟩)
      exact ⟨.stop .close :: more,u,cause,run_cons_eq_some.mpr ⟨_,taken,executed⟩,panics⟩

/-- When `Stop` takes a channel that it must not close, a panic is within reach. -/
theorem unremovable_panics {next : State} (running : s.router.panic = none) (contested : ¬ Removable s)
    (taken : step cfg s (.stop .remove) = some next) :
    ∃ more u cause, run (step cfg) next more = some u ∧ u.router.panic = some (.channel cause) := by
  simp only [Removable,not_forall] at contested
  obtain ⟨key,c,visited,channels,at_,present,owned⟩ := contested
  obtain ⟨d,found⟩ := Option.isSome_iff_exists.mp present
  simp only [step_running running,stepStop,at_,found] at taken
  cases taken
  have finished : ∀ t : State, t.router.panic = none → t.stop = .ranging visited (channels ++ [c]) →
      step cfg t (.stop .finish) = some { t with stop := .closing (channels ++ [c]) } := by
    intro t up ranging
    rw [step_running up,stepStop,ranging]
  obtain ⟨more,u,cause,executed,panics⟩ := closing_contested_panics (c := c) channels
    (s := { s with
      stop := .closing (channels ++ [c])
      router := { s.router with pendingReqs := s.router.pendingReqs.delete key } }) running rfl (by
    by_cases closed : (s.router.pendingReqs.slots c).closed = true
    · exact .inl closed
    · rw [not_and] at owned
      obtain ⟨h,member⟩ := not_forall.mp (owned (Bool.eq_false_iff.mpr closed))
      rw [not_not] at member
      cases h with
      | stop => exact .inr (.inl (by simpa only [held,at_,Stop.held] using member))
      | stdin => exact .inr (.inr ⟨.stdin,by simp,member⟩)
      | monitor => exact .inr (.inr ⟨.monitor,by simp,member⟩)
      | reader => exact .inr (.inr ⟨.reader,by simp,member⟩)
      | gateway e => exact .inr (.inr ⟨.gateway e,by simp,member⟩))
  exact ⟨.stop .finish :: more,u,cause,run_cons_eq_some.mpr ⟨_,finished _ running rfl,executed⟩,panics⟩

/-- `Stop` is shown the channel of the first request, the reader takes it, the second stores another under the key:
    `Stop` closes the first before the reader sends to it. -/
example : ∃ t, run (step {}) (start true) (gatewayRequest (.string "a") ++
    [.stdin (.read (toolsList (.string "a"))),.stdin (.limit none),.stop .cancel,.stop (.visit (.string "a")),
     .reader (.receive (some { id := .string "a" })),.reader .route,.stdin (.process .go),.stop .remove,.stop .finish,
     .stop .close,.reader .deliver]) = some t ∧ t.router.panic = some (.channel .sendOnClosed) :=
  ⟨_,rfl,rfl⟩

end contested

/-- A run of harmless steps does not panic; from another step a panic follows or is within reach. -/
theorem router_panics_from_harm (cfg : Config) (up : Bool) (labels : List Label) (t : State)
    (executed : run (step cfg) (start up) labels = some t)
    (meets : Meets (step cfg) Harmless (start up) labels) :
    t.router.panic = none ∧ ∀ label next, step cfg t label = some next → ¬ Harmless t label →
        ∃ more u, run (step cfg) next more = some u ∧ u.router.panic ≠ none := by
  have invariant : ∀ s label next, Accounts s ∧ s.router.panic = none → Harmless s label → step cfg s label = some next →
      Accounts next ∧ next.router.panic = none := by
    intro s label next now fine taken
    obtain ⟨accounts,panics⟩ := step_accounts now.1 fine.2 taken
    exact ⟨accounts,panics.mpr fine.1⟩
  have kept := run_keeps invariant ⟨start_accounts up,rfl⟩ meets executed
  refine ⟨kept.2,fun label next taken harm => ?_⟩
  by_cases removable : label = .stop .remove → Removable t
  · have unhashable : ¬ HashesWell t label := fun well => harm ⟨well,removable⟩
    refine ⟨[],next,rfl,fun fine => unhashable ?_⟩
    exact (step_accounts kept.1 removable taken).2.mp fine
  · obtain ⟨rfl,contested⟩ := Classical.not_imp.mp removable
    obtain ⟨more,u,cause,executed,panics⟩ := unremovable_panics kept.2 contested taken
    exact ⟨more,u,executed,by rw [panics]; exact nofun⟩

def answeredRequest (id : Any) : List Label :=
  gatewayRequest id ++ [.gateway 0 (.send none),.reader (.receive (some { id := id })),.reader .route]

theorem string_identifier_is_harmless : ∃ t, run (step {}) (start true) (answeredRequest (.string "a")) = some t ∧
      Meets (step {}) Harmless (start true) (answeredRequest (.string "a")) ∧ t.router.panic = none := by
  have meets : Meets (step {}) Harmless (start true) (answeredRequest (.string "a")) := by
    refine (meets_cons rfl).mpr ⟨⟨hashesWell_of_none rfl,nofun⟩,?_⟩
    refine (meets_cons rfl).mpr ⟨⟨hashesWell_of_none rfl,nofun⟩,?_⟩
    refine (meets_cons rfl).mpr ⟨⟨hashesWell_of_some rfl rfl,nofun⟩,?_⟩
    refine (meets_cons rfl).mpr ⟨⟨hashesWell_of_none rfl,nofun⟩,?_⟩
    refine (meets_cons rfl).mpr ⟨⟨hashesWell_of_none rfl,nofun⟩,?_⟩
    exact (meets_cons rfl).mpr ⟨⟨hashesWell_of_some rfl rfl,nofun⟩,trivial⟩
  exact ⟨_,rfl,meets,(router_panics_from_harm {} true (answeredRequest (.string "a")) _ rfl meets).1⟩

/-- A request with an array for its identifier is accepted, and ends the process. -/
theorem array_identifier_panics :
    (∃ req, (toolsList (.array [.number 1])).decode = .ok req ∧ req.id = .array [.number 1]) ∧
      ∃ t, run (step {}) (start true) (gatewayRequest (.array [.number 1])) = some t ∧
        t.router.panic = some .unhashable :=
  ⟨⟨_,rfl,rfl⟩,_,rfl,rfl⟩

end McpBridge.MessageRouter
