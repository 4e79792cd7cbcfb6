import Mathlib.Data.List.NodupEquivFin
import McpBridge.Ledger
import McpBridge.LineIds

/-!
A request that arrives while the connection is down is queued, and the stdin loop waits for its result until its context
is over. The monitor looks at the context once, before it begins with the request.
-/
namespace McpBridge.MessageRouter
open Values Channels Pending Runs Router Nat

def Line.Carries (line : Line) (id : Any) : Prop := ∃ response, line.response = some response ∧ response.id = id

/-- At most one of the lines carries the identifier. -/
def AtMostOneLine (lines : List Line) (id : Any) : Prop :=
  ∀ (m n : Nat) first second, lines[m]? = some first → lines[n]? = some second → first.Carries id → second.Carries id →
    m = n

/-- No other message has the identifier. -/
def UniqueId (inputs : List Data) (i : Nat) (id : Any) : Prop :=
  ∀ (j : Nat) data, inputs[j]? = some data → data.id = id → j = i

/-- A goroutine sends the message to the gateway. -/
def Sends (i : Nat) (s : State) : Label → Prop
  | .gateway c (.send _) => ∃ g, s.router.goroutines c = some g ∧ g.job.index = i ∧ g.pc = .send
  | _ => False

/-- Nobody is going to send the message to the gateway: its context is over, and nobody else owes it an answer. -/
structure Retired (i : Nat) (s : State) : Prop where
  read : i < s.inputs.length
  ended : s.expired i = true
  stdin : ∀ job, s.stdin.request = some job → job.index ≠ i
  monitor : s.monitor.due i = 0
  router : s.router.delegated i = 0
  spawned : s.router.Spawned

section retired
variable {cfg : Config} {s next : State} {r router : Router} {i : Nat} {job : Job} {progress : Progress} {stage : Stage}
  {move : Move}

theorem Stage.step_paid (paid : stage.owes = false)
    (taken : stage.step cfg job r move = some (progress,router)) :
    progress.owes = false ∧ router.goroutines = r.goroutines := by
  cases Stage.step_cases taken with
  | removed mode after found =>
    refine ⟨?_,delete_goroutines⟩
    rcases after with _ | _ | _ <;> exact paid
  | missing mode after absent => exact ⟨by rw [afterCleanup_owes]; exact paid,delete_goroutines⟩
  | closed mode c after =>
    refine ⟨?_,close_goroutines c⟩
    rw [afterCleanup_owes]
    rcases after with _ | _ | _ <;> exact paid
  | _ => cases paid

theorem Stage.step_delegated (spawned : r.Spawned)
    (unowed : due job.index i stage.owes = 0) (taken : stage.step cfg job r move = some (progress,router)) :
    due job.index i progress.owes = 0 ∧ router.delegated i ≤ r.delegated i := by
  obtain ⟨later,goroutines⟩ := Stage.step_goroutines taken
  by_cases own : job.index = i
  · subst own
    have paid : stage.owes = false := by
      rw [due_eq_toNat] at unowed
      exact Bool.toNat_eq_zero.mp unowed
    obtain ⟨still,same⟩ := Stage.step_paid paid taken
    rw [still,due_false]
    exact ⟨rfl,le_of_eq (delegated_same spawned same later.fresh)⟩
  · refine ⟨due_of_ne own _,?_⟩
    rcases goroutines with same | rfl
    · exact le_of_eq (delegated_same spawned same later.fresh)
    · have more := delegated_spawn (r := r) (i := i) job
      rw [due_of_ne own] at more
      exact more

theorem Goroutine.step_delegated {c : Nat} {g : Goroutine} {pc : GatewayPc} {move : GatewayMove} (spawned : r.Spawned)
    (found : r.goroutines c = some g) (taken : g.step cfg c r move = some (pc,router)) :
    (router.setPc c g pc).delegated i ≤ r.delegated i := by
  obtain ⟨later,same⟩ := Goroutine.step_goroutines taken
  have moved : (router.setPc c g pc).delegated i + due g.job.index i g.pc.owes = r.delegated i + due g.job.index i pc.owes :=
    delegated_move spawned found same later.fresh
  have less : due g.job.index i pc.owes ≤ due g.job.index i g.pc.owes := by
    obtain ⟨_,fewer⟩ | ⟨_,_,_,paid⟩ := Goroutine.step_owes taken
    · exact due_le fewer
    · rw [paid,due_false]
      exact zero_le _
  omega

theorem Stdin.request_of_resume {other : Job}
    (requested : (Stdin.resume job progress).request = some other) : other = job := by
  rcases progress with stage | _ | err
  · exact (Option.some.inj requested).symm
  all_goals cases requested

section
variable (retired : Retired i s) {label : Label}
include retired

theorem stepStdin_retired {move : StdinMove} (taken : s.stepStdin cfg move = some next) :
    next.expired i = true ∧ (∀ job, next.stdin.request = some job → job.index ≠ i) ∧ next.monitor.due i = 0 ∧
      next.router.delegated i ≤ s.router.delegated i := by
  have expires (index : Nat) : Function.update s.expired index true i = true := by
    rw [Function.update_apply]
    split
    next => rfl
    next => exact retired.ended
  have resumes {job : Job} {stdin : Stdin} (at_ : s.stdin.request = some job)
      (same : ∀ other, stdin.request = some other → other = job) (other : Job) (requested : stdin.request = some other) :
      other.index ≠ i := by
    rw [same other requested]
    exact retired.stdin job at_
  cases stepStdin_cases taken with
  | malformed at_ | reported at_ | silenced at_ | left at_ =>
    exact ⟨retired.ended,nofun,retired.monitor,le_refl _⟩
  | accepted at_ =>
    refine ⟨retired.ended,fun job same => ?_,retired.monitor,le_refl _⟩
    cases same
    exact ne_of_gt retired.read
  | limited at_ | overflown at_ => exact ⟨retired.ended,nofun,retired.monitor,le_refl _⟩
  | parked at_ | enqueued at_ =>
    refine ⟨retired.ended,resumes (by rw [at_]; rfl) fun other same => ?_,retired.monitor,le_refl _⟩
    exact (Option.some.inj same).symm
  | begun at_ up =>
    refine ⟨retired.ended,resumes (by rw [at_]; rfl) fun other same => Stdin.request_of_resume same,retired.monitor,?_⟩
    exact le_refl _
  | @resulted job err slot at_ received =>
    refine ⟨expires _,resumes (by rw [at_]; rfl) fun other same => ?_,retired.monitor,le_refl _⟩
    exact @Stdin.request_of_resume job (.returned err.join) other same
  | timedOut at_ => exact ⟨expires _,nofun,retired.monitor,le_refl _⟩
  | @processed job stage move progress router at_ moved =>
    have other : job.index ≠ i := retired.stdin job (by rw [at_]; rfl)
    refine ⟨retired.ended,resumes (by rw [at_]; rfl) fun other same => Stdin.request_of_resume same,retired.monitor,?_⟩
    exact (Stage.step_delegated retired.spawned (due_of_ne other _) moved).2

theorem stepMonitor_retired {move : MonitorMove} (taken : s.stepMonitor cfg move = some next) :
    next.expired i = true ∧ next.stdin = s.stdin ∧ next.monitor.due i = 0 ∧
      next.router.delegated i ≤ s.router.delegated i := by
  cases stepMonitor_cases taken with
  | @begun job rest at_ live uncancelled =>
    refine ⟨retired.ended,rfl,?_,le_refl _⟩
    have other : job.index ≠ i := by
      rintro rfl
      rw [retired.ended] at live
      cases live
    have resumed := Monitor.resume_due job rest (processStdinMessageDirect cfg job.request) i
    rw [due_of_ne other] at resumed
    exact (Nat.add_eq_zero_iff.mp resumed).1
  | @processed job stage rest move progress router at_ moved =>
    have unowed : due job.index i stage.owes = 0 := by
      have idle := retired.monitor
      rw [at_] at idle
      exact idle
    obtain ⟨after,less⟩ := Stage.step_delegated retired.spawned unowed moved
    have resumed := Monitor.resume_due job rest progress i
    rw [after] at resumed
    exact ⟨retired.ended,rfl,(Nat.add_eq_zero_iff.mp resumed).1,less⟩
  | crashed panic => exact ⟨retired.ended,rfl,retired.monitor,le_refl _⟩
  | _ => exact ⟨retired.ended,rfl,rfl,le_refl _⟩

theorem step_retired (stepped : step cfg s label = some next) : Retired i next := by
  have read : i < next.inputs.length := lt_of_lt_of_le retired.read (step_inputs stepped).length_le
  have spawned := step_spawned retired.spawned stepped
  have nothing {router : Router} (less : router.delegated i ≤ s.router.delegated i) : router.delegated i = 0 := by
    rw [retired.router] at less
    exact le_zero.mp less
  have same (untouched : Untouched s next) (later : s.router.pendingReqs.fresh ≤ next.router.pendingReqs.fresh) :
      Retired i next := by
    refine ⟨read,by rw [untouched.expired]; exact retired.ended,by rw [untouched.stdin]; exact retired.stdin,
      by rw [untouched.monitor]; exact retired.monitor,?_,spawned⟩
    rw [delegated_same retired.spawned untouched.goroutines later]
    exact retired.router
  cases (taken_of_step stepped).2 with
  | stdin moved =>
    obtain ⟨ended,stdin,monitor,less⟩ := stepStdin_retired retired moved
    exact ⟨read,ended,stdin,monitor,nothing less,spawned⟩
  | monitor moved =>
    obtain ⟨ended,stdin,monitor,less⟩ := stepMonitor_retired retired moved
    exact ⟨read,ended,by rw [stdin]; exact retired.stdin,monitor,nothing less,spawned⟩
  | reader moved => exact same (stepReader_untouched moved).1 (stepReader_later moved).fresh
  | stop moved => exact same (stepStop_untouched moved).1 (stepStop_later moved).fresh
  | gateway found moved =>
    exact ⟨read,retired.ended,retired.stdin,retired.monitor,
      nothing (Goroutine.step_delegated retired.spawned found moved),spawned⟩
  | connection | drain => exact ⟨read,retired.ended,retired.stdin,retired.monitor,retired.router,spawned⟩
  | expire index =>
    refine ⟨read,?_,retired.stdin,retired.monitor,retired.router,spawned⟩
    simp only [Function.update_apply]
    split
    next => rfl
    next => exact retired.ended

theorem Retired.unsent : ¬ Sends i s label := by
  intro sends
  unfold Sends at sends
  split at sends
  next c err =>
    obtain ⟨g,found,index,at_⟩ := sends
    have one : s.router.dueAt i c = 1 := by
      rw [dueAt,found]
      simp only [Option.elim_some,at_,index]
      exact due_self i
    have listed := Finset.mem_range.mpr (retired.spawned c g found)
    have some := Finset.single_le_sum (fun d _ => zero_le (s.router.dueAt i d)) listed
    have none : ∑ d ∈ Finset.range s.router.pendingReqs.fresh, s.router.dueAt i d = 0 := retired.router
    omega
  next => exact sends

end

end retired

/-! ### One line for each identifier -/

/-- Two lines for a message that has one are the same line. -/
theorem line_unique {lines : List Line} {i m n : Nat} {first second : Line} (once : (lines.map Line.index).count i ≤ 1)
    (at_ : lines[m]? = some first) (at' : lines[n]? = some second) (index : first.index = i) (index' : second.index = i) :
    m = n := by
  have apart {m n : Nat} {first second : Line} (lt : m < n) (at_ : lines[m]? = some first)
      (at' : lines[n]? = some second) (index : first.index = i) (index' : second.index = i) : False := by
    obtain ⟨small,same⟩ := List.getElem?_eq_some_iff.mp at_
    obtain ⟨large,same'⟩ := List.getElem?_eq_some_iff.mp at'
    have twice : (lines.map Line.index).Duplicate i := by
      refine List.duplicate_iff_exists_distinct_get.mpr ⟨⟨m,by simpa using small⟩,⟨n,by simpa using large⟩,lt,?_,?_⟩
      · simp [same,index]
      · simp [same',index']
    have two := List.duplicate_iff_two_le_count.mp twice
    omega
  rcases lt_trichotomy m n with lt | same | gt
  · exact (apart lt at_ at' index index').elim
  · exact same
  · exact (apart gt at' at_ index' index).elim

section runs
variable {cfg : Config} {s next t : State} {connected : Bool} {labels : List Label}

theorem atMostOneLine_of_single {i : Nat} {data : Data} (attributed : Attributed t) (single : Single i t)
    (unique : UniqueId t.inputs i data.id) : AtMostOneLine t.router.lines data.id := by
  have own {n : Nat} {line : Line} (at_ : t.router.lines[n]? = some line) (carries : line.Carries data.id) :
      line.index = i := by
    obtain ⟨other,read',same⟩ := attributed.router.lines line (List.mem_of_getElem? at_)
    obtain ⟨response,answer,id⟩ := carries
    exact unique line.index other read' ((same response answer).symm.trans id)
  intro m n first second at_ at' carries carries'
  have once : (t.router.lines.map Line.index).count i ≤ 1 := le_trans (State.written_le t i) single
  exact line_unique once at_ at' (own at_ carries) (own at' carries')

theorem retired_of_timeout {i : Nat} (tidy : Tidy s) (fine : GivesUpUnbegun i s (.stdin .timeout))
    (waits : s.stdin.waits i = true) (stepped : step cfg s (.stdin .timeout) = some next) : Retired i next := by
  obtain ⟨settled,idle⟩ := Nat.add_eq_zero_iff.mp (fine waits)
  obtain ⟨_,delegated⟩ := Nat.add_eq_zero_iff.mp settled
  cases (taken_of_step stepped).2 with
  | stdin moved =>
    cases stepStdin_cases moved with
    | @timedOut job at_ ended =>
      have read := tidy.current i waits
      rw [at_] at waits
      cases of_decide_eq_true waits
      exact ⟨read,Function.update_self ..,nofun,idle,delegated,tidy.spawned⟩

theorem retired_unsent {i : Nat} (retired : Retired i s) (labels : List Label) :
    Meets (step cfg) (fun s label => ¬ Sends i s label) s labels := by
  induction labels generalizing s with
  | nil => trivial
  | cons label rest ih => exact ⟨retired.unsent,fun next stepped => ih (step_retired retired stepped)⟩

end runs

/-- With honest direct servers, at most one answer to a message is written or due, precisely when the stdin loop gives
    up the message, if queued, unbegun. Then its identifier, if no other has it, is on at most one line, and when given
    up it is not sent to the gateway. -/
theorem queued_request_answered_once (cfg : Config) (connected : Bool) (labels : List Label) (t : State) (i : Nat)
    (executed : run (step cfg) (start connected) labels = some t)
    (honest : Meets (step cfg) HonestServers (start connected) labels) :
    (Always (step cfg) (Single i) (start connected) labels ↔
      Meets (step cfg) (GivesUpUnbegun i) (start connected) labels) ∧
    (Meets (step cfg) (GivesUpUnbegun i) (start connected) labels →
      (∀ data, t.inputs[i]? = some data → UniqueId t.inputs i data.id → AtMostOneLine t.router.lines data.id) ∧
      ∀ before after s next, labels = before ++ .stdin .timeout :: after →
        run (step cfg) (start connected) before = some s → s.stdin.waits i = true →
        step cfg s (.stdin .timeout) = some next → Meets (step cfg) (fun s label => ¬ Sends i s label) next after) := by
  refine ⟨always_single_iff executed,fun meets => ⟨fun data read unique => ?_,?_⟩⟩
  · have single := ((always_single_iff executed).mpr meets).last executed
    exact atMostOneLine_of_single (run_attributed honest executed) single unique
  · rintro before after s next rfl executed' waits stepped
    have tidy : Tidy s := reaches_keeps (fun _ _ _ tidy stepped => step_tidy tidy stepped) (start_tidy connected)
      ⟨before,executed'⟩
    have fine := (meets.drop executed').1
    exact retired_unsent (retired_of_timeout tidy fine waits stepped) after

def queues : List Label := [.stdin (.read (toolsList (.string "a"))),.stdin (.limit none),.stdin .enqueue]

def givenUp : List Label :=
  queues ++ [.expire 0,.stdin .timeout,.stdin .report,.connection true,.monitor (.notify true),.monitor .take,
    .monitor .send,.monitor .close]

theorem given_up_answered_once :
    ∃ t, run (step {}) (start false) givenUp = some t ∧ AtMostOneLine t.router.lines (.string "a") ∧
      Meets (step {}) (GivesUpUnbegun 0) (start false) givenUp := by
  have honest : Meets (step {}) HonestServers (start false) givenUp := by
    iterate 11 refine (meets_cons rfl).mpr ⟨trivial,?_⟩
    trivial
  have meets : Meets (step {}) (GivesUpUnbegun 0) (start false) givenUp := by
    iterate 4 refine (meets_cons rfl).mpr ⟨trivial,?_⟩
    refine (meets_cons rfl).mpr ⟨fun _ => rfl,?_⟩
    iterate 6 refine (meets_cons rfl).mpr ⟨trivial,?_⟩
    trivial
  have unique : UniqueId [toolsList (.string "a")] 0 (.string "a") := by
    intro j data read _
    exact lt_one_iff.mp (List.getElem?_eq_some_iff.mp read).1
  have once := ((queued_request_answered_once {} false givenUp _ 0 rfl honest).2 meets).1 (toolsList (.string "a")) rfl
  exact ⟨_,rfl,once unique,meets⟩

def begunThenGivenUp : List Label :=
  queues ++ [.connection true,.monitor (.notify true),.monitor .take,.monitor (.process .go),.expire 0,.stdin .timeout]

/-- The request is sent to the gateway after its timeout was reported, and answered again. -/
theorem begun_request_answered_twice :
    ∃ s t, run (step {}) (start false) (begunThenGivenUp ++ [.stdin .report]) = some s ∧
      s.router.lines = [⟨0,some (errorResponse (.string "a") "request timeout while queued")⟩] ∧
      Sends 0 s (.gateway 0 (.send none)) ∧
      run (step {}) s [.gateway 0 (.send none),.reader (.receive (some { id := .string "a" })),.reader .route,
        .reader .deliver,.gateway 0 .receive,.gateway 0 .go] = some t ∧
      t.inputs = [toolsList (.string "a")] ∧ ¬ AtMostOneLine t.router.lines (.string "a") := by
  refine ⟨_,_,rfl,rfl,⟨_,rfl,rfl,rfl⟩,rfl,rfl,fun once => ?_⟩
  have same := once 0 1 _ _ rfl rfl ⟨_,rfl,rfl⟩ ⟨_,rfl,rfl⟩
  cases same

end McpBridge.MessageRouter
