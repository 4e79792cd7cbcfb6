import McpBridge.RouterDesk

/-!
Whoever works on a message has a bounded number of steps left, and each of its own steps lowers the bound.
-/
namespace McpBridge.MessageRouter
open Values Channels Pending Runs Desks

def Mode.Bounded (cfg : Config) : Mode → Prop
  | .single => True
  | .attempt n => n ≤ cfg.direct.fallback.maxRetries

def Stage.Bounded (cfg : Config) : Stage → Prop
  | .setup mode => mode.Bounded cfg
  | .request mode => mode.Bounded cfg
  | .respond mode _ => mode.Bounded cfg
  | .cleanup mode _ => mode.Bounded cfg
  | .close mode _ _ => mode.Bounded cfg
  | .delay n => n ≤ cfg.direct.fallback.maxRetries
  | .gateway => True

def Progress.Bounded (cfg : Config) : Progress → Prop
  | .inside stage => stage.Bounded cfg
  | .returned _ => True

def Bounded (cfg : Config) (s : State) : Prop := ∀ job stage, s.stdin = .processing job stage → stage.Bounded cfg

/-- The error makes `attemptDirectWithRetries` count on from the largest `int`. -/
def Mode.Wraps : Mode → Option String → Prop
  | .attempt n,some err => n = 2 ^ 63 - 1 ∧ isRetryableDirectError err = true
  | _,_ => False

def DirectAfter.Wraps (mode : Mode) : DirectAfter → Prop
  | .finish err => mode.Wraps err
  | .respond _ => False

def Stage.Wraps : Stage → Prop
  | .cleanup mode after => after.Wraps mode
  | .close mode _ after => after.Wraps mode
  | _ => False

def Mode.rank (cfg : Config) : Mode → Nat
  | .single => 0
  | .attempt n => 10 * (cfg.direct.fallback.maxRetries - n).toNat

def Stage.rank (cfg : Config) : Stage → Nat
  | .delay n => (Mode.attempt n).rank cfg + 10
  | .setup mode => mode.rank cfg + 9
  | .request mode => mode.rank cfg + 8
  | .cleanup mode (.respond _) => mode.rank cfg + 7
  | .close mode _ (.respond _) => mode.rank cfg + 6
  | .respond mode _ => mode.rank cfg + 5
  | .cleanup mode (.finish _) => mode.rank cfg + 4
  | .close mode _ (.finish _) => mode.rank cfg + 3
  | .gateway => 2

def Progress.rank (cfg : Config) : Progress → Nat
  | .inside stage => stage.rank cfg
  | .returned (some _) => 1
  | .returned none => 0

/-- A bound on the steps that the stdin loop has left for its message. -/
def Stdin.rank (cfg : Config) : Stdin → Nat
  | .idle => 0
  | .exited => 0
  | .report .. => 1
  | .queued _ => 2
  | .enqueue _ => 3
  | .processing _ stage => stage.rank cfg
  | .limiting _ => 10 * (cfg.direct.fallback.maxRetries + 1).toNat + 10

def GatewayPc.rank : GatewayPc → Nat
  | .send => 7
  | .wait => 6
  | .deliver _ => 5
  | .cleanup _ => 4
  | .close _ _ => 3
  | .timedOut => 2
  | .report _ => 1
  | .done => 0

open Stage

section progress
variable {cfg : Config} {s next : State} {progress : Progress} {r router : Router} {move : StdinMove} {stage : Stage}
  {mode : Mode} {job : Job}

@[simp] theorem Stdin.resume_rank (job : Job) (progress : Progress) :
    (Stdin.resume job progress).rank cfg = progress.rank cfg := by
  rcases progress with stage | _ | err <;> rfl

theorem resume_bounded {router : Router} (bounded : progress.Bounded cfg) :
    Bounded cfg { s with stdin := .resume job progress, router := router } := by
  intro other stage same
  rcases progress with inside | _ | err <;> cases same
  exact bounded

theorem processStdinMessageDirect_bounded (req : Request) : (processStdinMessageDirect cfg req).Bounded cfg := by
  unfold processStdinMessageDirect processRequestWithFallback
  repeat' split
  · trivial
  · exact ‹_›
  all_goals trivial

theorem processStdinMessageDirect_rank (req : Request) :
    (processStdinMessageDirect cfg req).rank cfg < 10 * (cfg.direct.fallback.maxRetries + 1).toNat + 10 := by
  unfold processStdinMessageDirect processRequestWithFallback
  repeat' split
  · simp only [Progress.rank,rank,Mode.rank]; omega
  · simp only [Progress.rank,rank,Mode.rank]; omega
  · simp only [Progress.rank]; omega
  · simp only [Progress.rank,rank]; omega

/-- What comes after a direct request is within bounds and, if the attempts can be counted, nearer to the end. -/
theorem finish_progress {err : Option String} (bounded : mode.Bounded cfg) :
    (finish cfg mode err).Bounded cfg ∧ (¬ mode.Wraps err → (finish cfg mode err).rank cfg < mode.rank cfg + 3) := by
  cases mode with
  | single => cases err <;> exact ⟨trivial,fun _ => by simp [finish,Progress.rank]⟩
  | attempt n =>
    cases err with
    | none => exact ⟨trivial,fun _ => by simp [finish,attemptDirectWithRetries,Progress.rank]⟩
    | some err =>
      simp only [finish,attemptDirectWithRetries]
      split
      next => exact ⟨trivial,fun _ => by simp only [Progress.rank,rank]; omega⟩
      next retryable =>
        split
        next again =>
          refine ⟨again,fun counts => ?_⟩
          have counted : increment n = n + 1 := by
            rw [increment,if_neg fun last => counts ⟨last,by simpa using retryable⟩]
          simp only [Progress.rank,rank,Mode.rank]
          omega
        next => exact ⟨trivial,fun _ => by simp only [Progress.rank,rank]; omega⟩

theorem afterCleanup_progress {after : DirectAfter} (bounded : mode.Bounded cfg) (c : Nat) :
    (afterCleanup cfg mode after).Bounded cfg ∧ (¬ after.Wraps mode →
      (afterCleanup cfg mode after).rank cfg < (close mode c after).rank cfg) := by
  cases after with
  | respond response => exact ⟨bounded,fun _ => by simp only [afterCleanup,Progress.rank,rank]; omega⟩
  | finish err => exact finish_progress bounded

/-- A step of a request brings it nearer to the end, if the attempts can be counted. -/
theorem Stage.step_progress {move : Move}
    (bounded : stage.Bounded cfg) (taken : stage.step cfg job r move = some (progress,router)) :
    progress.Bounded cfg ∧ (¬ stage.Wraps → progress.rank cfg < stage.rank cfg) := by
  have later (mode : Mode) (c : Nat) (after : DirectAfter) :
      (close mode c after).rank cfg < (cleanup mode after).rank cfg := by
    cases after <;> simp only [rank] <;> omega
  cases step_cases taken with
  | stored | retried => exact ⟨bounded,fun _ => Nat.lt_succ_self _⟩
  | answered mode outcome =>
    cases outcome <;> cases mode <;> exact ⟨bounded,fun _ => by simp only [afterAnswer,Progress.rank,rank]; omega⟩
  | responded mode | interrupted mode =>
    cases mode <;> exact ⟨bounded,fun _ => by simp only [afterRespond,Progress.rank,rank]; omega⟩
  | removed mode after found => exact ⟨bounded,fun _ => later mode _ after⟩
  | missing mode after absent =>
    obtain ⟨within,nearer⟩ := afterCleanup_progress bounded 0
    exact ⟨within,fun counts => Nat.lt_trans (nearer counts) (later mode 0 after)⟩
  | closed mode c after => exact afterCleanup_progress bounded c
  | abandoned n cancelled => exact ⟨trivial,fun _ => by simp only [Progress.rank,rank]; omega⟩
  | handed => exact ⟨trivial,fun _ => Nat.zero_lt_two⟩

theorem stepStdin_bounded (bounded : Bounded cfg s) (taken : s.stepStdin cfg move = some next) :
    Bounded cfg next := by
  cases stepStdin_cases taken with
  | begun => exact resume_bounded (processStdinMessageDirect_bounded _)
  | @processed job stage _ _ _ at_ moved => exact resume_bounded (step_progress (bounded job stage at_) moved).1
  | @resulted job err slot at_ received =>
    intro other stage same
    cases result : err.join <;> rw [result] at same <;> cases same
  | _ => exact fun _ _ same => by cases same

theorem step_bounded {label : Label} (bounded : Bounded cfg s) (taken : step cfg s label = some next) :
    Bounded cfg next := by
  by_cases own : ∃ move, label = .stdin move
  · obtain ⟨move,rfl⟩ := own
    obtain ⟨_,⟨moved⟩⟩ := taken_of_step taken
    exact stepStdin_bounded bounded moved
  · have same := (step_stdin (fun move equal => own ⟨move,equal⟩) taken).1
    intro job stage at_
    exact bounded job stage (same ▸ at_)

theorem stepStdin_progress {task : Nat × Bool} (bounded : Bounded cfg s)
    (counts : ∀ job stage, s.stdin = .processing job stage → ¬ stage.Wraps) (busy : s.stdin.task = some task)
    (taken : s.stepStdin cfg move = some next) : next.stdin.rank cfg < s.stdin.rank cfg := by
  cases stepStdin_cases taken with
  | malformed at_ | accepted at_ | left at_ =>
    rw [at_] at busy
    cases busy
  | limited at_ | parked at_ | overflown at_ | enqueued at_ | timedOut at_ | reported at_ | silenced at_ =>
    rw [at_]
    simp only [Stdin.rank]
    omega
  | begun at_ =>
    rw [at_,Stdin.resume_rank]
    exact processStdinMessageDirect_rank _
  | @resulted job err slot at_ received =>
    have less : (Stdin.resume job (.returned err.join)).rank cfg < 2 := by
      rw [Stdin.resume_rank]
      cases err.join <;> simp only [Progress.rank] <;> omega
    rw [at_]
    exact less
  | @processed job stage _ _ _ at_ moved =>
    rw [at_,Stdin.resume_rank]
    exact (step_progress (bounded job stage at_) moved).2 (counts job stage at_)

theorem Goroutine.step_progress {c : Nat} {g : Goroutine} {pc : GatewayPc} {move : GatewayMove}
    (taken : g.step cfg c r move = some (pc,router)) : pc.rank < g.pc.rank := by
  have after (after : GatewayAfter) : after.pc.rank < 3 := by
    cases after <;> simp [GatewayAfter.pc,GatewayPc.rank]
  cases Goroutine.step_cases taken with
  | missing at_ =>
    rw [at_]
    exact Nat.lt_succ_of_lt (after _)
  | closed at_ =>
    rw [at_]
    exact after _
  | _ at_ =>
    rw [at_]
    simp only [GatewayPc.rank]
    omega

end progress

end McpBridge.MessageRouter
