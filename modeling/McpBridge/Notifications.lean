import McpBridge.Ledger

/-!
The router treats a notification as a request whose identifier is `nil`: it is registered, sent, waited for, and
answered like one.
-/
namespace McpBridge.MessageRouter
open Values Channels Pending Runs Stdin Stage

/-- A JSON object with a member `method` and without a member `id`. -/
def Data.Notification : Data → Prop
  | .json (.object members) => (∃ method, ("method",method) ∈ members) ∧ ∀ id, ("id",id) ∉ members
  | _ => False

/-- A response or the final error of the direct path is under way. -/
def Stage.answering : Stage → Bool
  | .respond _ _ => true
  | .cleanup _ (.respond _) => true
  | .close _ _ (.respond _) => true
  | .cleanup .single (.finish (some _)) => true
  | .close .single _ (.finish (some _)) => true
  | _ => false

def Progress.answering : Progress → Bool
  | .inside stage => stage.answering
  | .returned err => err.isSome

def GatewayPc.answering : GatewayPc → Bool
  | .send => false
  | .wait => false
  | .cleanup .quit => false
  | .close _ .quit => false
  | .done => false
  | _ => true

def Stdin.answers (i : Nat) : Stdin → Prop
  | .processing job stage => job.index = i ∧ stage.answering = true
  | .report index _ _ => index = i
  | _ => False

def Monitor.answers (i : Nat) : Monitor → Prop
  | .processing job stage _ => job.index = i ∧ stage.answering = true
  | .send job err _ => job.index = i ∧ err.isSome = true
  | _ => False

/-- Nothing answers the message. -/
structure Router.Silent (i : Nat) (r : Router) : Prop where
  lines : ∀ line ∈ r.lines, line.index ≠ i
  goroutines : ∀ c g, r.goroutines c = some g → g.job.index = i → g.pc.answering = false

/-- No line was written for the message, and no answer to it is in hand. -/
structure Silent (i : Nat) (s : State) : Prop where
  router : s.router.Silent i
  stdin : ¬ s.stdin.answers i
  monitor : ¬ s.monitor.answers i

/-- The outcome of the direct call is the answer: a response, or an error where nothing else is tried. -/
def Final : Mode → DirectOutcome → Prop
  | _,.response _ => True
  | .single,_ => True
  | .attempt _,_ => False

/-- The goroutine gets something to write: the send fails, something comes, or the time is up. -/
def GatewayMove.ends : GatewayMove → Prop
  | .send err => err.isSome
  | .receive => True
  | .timeout => True
  | _ => False

/-- The step puts an answer to the message in hand. -/
def Answers (cfg : Config) (i : Nat) (s : State) : Label → Prop
  | .stdin (.read data) => i = s.inputs.length ∧ ∃ cause, data.decode = .error cause
  | .stdin (.limit err) => err.isSome ∧ ∃ job, s.stdin = .limiting job ∧ job.index = i
  | .stdin .enqueue => cfg.queueSize ≤ s.queue.length ∧ ∃ job, s.stdin = .enqueue job ∧ job.index = i
  | .stdin .result => s.stdin.waits i = true ∧ (s.results i).value.join.isSome
  | .stdin .timeout => s.stdin.waits i = true
  | .stdin (.process (.answer outcome)) =>
    ∃ job mode, s.stdin = .processing job (.request mode) ∧ job.index = i ∧ Final mode outcome
  | .monitor (.process (.answer outcome)) =>
    ∃ job mode rest, s.monitor = .processing job (.request mode) rest ∧ job.index = i ∧ Final mode outcome
  | .gateway c move => move.ends ∧ ∃ g, s.router.goroutines c = some g ∧ g.job.index = i
  | _ => False

open Router

section steps
variable {cfg : Config} {s next : State} {r router : Router} {i : Nat} {job : Job} {progress : Progress}
  {move : GatewayMove} {pc : GatewayPc} {stage : Stage} {g : Goroutine} {c : Nat}

theorem afterAnswer_answering_iff (mode : Mode) (outcome : DirectOutcome) :
    (afterAnswer mode outcome).answering = true ↔ Final mode outcome := by
  cases outcome <;> cases mode <;> simp [afterAnswer,Progress.answering,answering,Final]

@[simp] theorem close_answering (mode : Mode) (c : Nat) (after : DirectAfter) :
    (close mode c after).answering = (cleanup mode after).answering := by
  rcases after with _ | _ | _ <;> cases mode <;> rfl

theorem afterCleanup_answering {mode : Mode} {after : DirectAfter}
    (quiet : (cleanup mode after).answering = false) : (afterCleanup cfg mode after).answering = false := by
  rcases after with response | _ | err
  · cases mode <;> cases quiet
  · cases mode <;> rfl
  · cases mode with
    | single => cases quiet
    | attempt n =>
      simp only [afterCleanup,finish,attemptDirectWithRetries]
      repeat' split
      all_goals rfl

theorem processStdinMessageDirect_answering (cfg : Config) (req : Request) :
    (processStdinMessageDirect cfg req).answering = false := by
  unfold processStdinMessageDirect processRequestWithFallback
  repeat' split
  all_goals rfl

/-- A request without an answer gets one only by the direct call's outcome, and writes no line. -/
theorem Stage.step_answering {move : Move} (quiet : stage.answering = false)
    (taken : stage.step cfg job r move = some (progress,router)) : router.lines = r.lines ∧ (progress.answering = true ↔
      ∃ mode outcome, stage = .request mode ∧ move = .answer outcome ∧ Final mode outcome) := by
  have lines : router.lines = r.lines := by
    obtain ⟨-,-,same | ⟨_,_,rfl,-⟩⟩ := step_outputs taken
    · exact same
    · cases quiet
  have away {p : Prop} (not : ∀ mode outcome, stage = .request mode → move = .answer outcome → False) (still : ¬ p) :
      p ↔ ∃ mode outcome, stage = .request mode ∧ move = .answer outcome ∧ Final mode outcome :=
    iff_of_false still fun ⟨mode,outcome,at_,same,_⟩ => not mode outcome at_ same
  refine ⟨lines,?_⟩
  cases step_cases taken with
  | answered mode outcome =>
    refine (afterAnswer_answering_iff mode outcome).trans ⟨fun final => ⟨mode,outcome,rfl,rfl,final⟩,?_⟩
    rintro ⟨_,_,⟨⟩,⟨⟩,final⟩
    exact final
  | responded mode | interrupted mode => cases quiet
  | @removed mode after c found =>
    refine away (fun _ _ same _ => by cases same) ?_
    rw [Progress.answering,close_answering,quiet]
    exact Bool.false_ne_true
  | missing mode after absent =>
    refine away (fun _ _ same _ => by cases same) ?_
    rw [afterCleanup_answering quiet]
    exact Bool.false_ne_true
  | closed mode c after =>
    refine away (fun _ _ same _ => by cases same) ?_
    rw [close_answering] at quiet
    rw [afterCleanup_answering quiet]
    exact Bool.false_ne_true
  | stored | retried | abandoned | handed => exact away (fun _ _ same _ => by cases same) Bool.false_ne_true

theorem Router.Silent.same (silent : r.Silent i) (lines : router.lines = r.lines)
    (goroutines : router.goroutines = r.goroutines) : router.Silent i := by
  refine ⟨?_,?_⟩
  · rw [lines]
    exact silent.lines
  · rw [goroutines]
    exact silent.goroutines

theorem Router.Silent.write (silent : r.Silent i) {index : Nat} (other : index ≠ i) (response : Option Response) :
    (r.write index response).Silent i := by
  refine ⟨fun line member => ?_,silent.goroutines⟩
  rcases List.mem_cons.mp member with rfl | old
  · exact other
  · exact silent.lines line old

/-- A step of a request writes nothing for the message, unless its answer was in hand. -/
theorem Stage.step_silent {move : Move} (silent : r.Silent i)
    (quiet : ¬ (job.index = i ∧ stage.answering = true)) (taken : stage.step cfg job r move = some (progress,router)) :
    router.Silent i ∧ ((job.index = i ∧ progress.answering = true) ↔
      job.index = i ∧ ∃ mode outcome, stage = .request mode ∧ move = .answer outcome ∧ Final mode outcome) := by
  have goroutines (c : Nat) (g : Goroutine) (found : router.goroutines c = some g) (own : g.job.index = i) :
      g.pc.answering = false := by
    obtain old | rfl := goroutine_of_step taken found
    · exact silent.goroutines c g old own
    · rfl
  by_cases own : job.index = i
  · have unanswered : stage.answering = false := Bool.eq_false_iff.mpr fun answering => quiet ⟨own,answering⟩
    obtain ⟨lines,answering⟩ := step_answering unanswered taken
    refine ⟨⟨?_,goroutines⟩,and_congr_right fun _ => answering⟩
    rw [lines]
    exact silent.lines
  · refine ⟨⟨fun line member => ?_,goroutines⟩,iff_of_false (fun both => own both.1) (fun both => own both.1)⟩
    obtain ⟨-,-,same | ⟨_,_,_,same⟩⟩ := step_outputs taken
    · exact silent.lines line (same ▸ member)
    · rcases List.mem_cons.mp (same ▸ member) with rfl | old
      · exact own
      · exact silent.lines line old

theorem Stdin.returned_answers (job : Job) (err : Option String) (i : Nat) :
    (returned job err).answers i ↔ job.index = i ∧ err.isSome = true := by
  cases err with
  | none => exact iff_of_false id fun both => Bool.false_ne_true both.2
  | some message => exact ⟨fun own => ⟨own,rfl⟩,fun both => both.1⟩

theorem Stdin.resume_answers (job : Job) (progress : Progress) (i : Nat) :
    (resume job progress).answers i ↔ job.index = i ∧ progress.answering = true := by
  cases progress with
  | inside stage => exact Iff.rfl
  | returned err => exact returned_answers job err i

theorem Silent.stdin_iff {p : Prop} (silent : Silent i s) (router : next.router = s.router)
    (monitor : next.monitor = s.monitor) (asks : next.stdin.answers i ↔ p) : Silent i next ↔ ¬ p := by
  rw [← asks]
  refine ⟨fun still => still.stdin,fun quiet => ⟨?_,quiet,?_⟩⟩
  · rw [router]
    exact silent.router
  · rw [monitor]
    exact silent.monitor

theorem stepStdin_silent_iff {move : StdinMove} (silent : Silent i s) (taken : s.stepStdin cfg move = some next) :
    Silent i next ↔ ¬ Answers cfg i s (.stdin move) := by
  cases stepStdin_cases taken with
  | malformed at_ decoded =>
    refine silent.stdin_iff rfl rfl ⟨fun own => ?_,fun both => both.1.symm⟩
    exact ⟨own.symm,_,decoded⟩
  | accepted at_ decoded =>
    refine silent.stdin_iff rfl rfl (iff_of_false id ?_)
    rintro ⟨_,cause,error⟩
    rw [decoded] at error
    cases error
  | @limited job cause at_ =>
    refine silent.stdin_iff rfl rfl ⟨fun own => ⟨rfl,job,at_,own⟩,?_⟩
    rintro ⟨_,other,at',own⟩
    rw [at_] at at'
    cases at'
    exact own
  | @begun job at_ up =>
    refine silent.stdin_iff rfl rfl (iff_of_false ?_ fun both => Bool.false_ne_true both.1)
    rw [resume_answers,processStdinMessageDirect_answering]
    exact fun both => Bool.false_ne_true both.2
  | parked at_ down =>
    exact silent.stdin_iff rfl rfl (iff_of_false id fun both => Bool.false_ne_true both.1)
  | @overflown job at_ full =>
    refine silent.stdin_iff rfl rfl ⟨fun own => ⟨full,job,at_,own⟩,?_⟩
    rintro ⟨_,other,at',own⟩
    rw [at_] at at'
    cases at'
    exact own
  | enqueued at_ space =>
    exact silent.stdin_iff rfl rfl (iff_of_false id fun both => absurd both.1 (Nat.not_le.mpr space))
  | @resulted job err slot at_ received =>
    refine silent.stdin_iff rfl rfl ?_
    rw [returned_answers,Answers,at_,← (Slot.value_of_receive received).1]
    simp only [waits,decide_eq_true_eq]
    exact and_congr_right fun own => by rw [own]
  | @timedOut job at_ ended =>
    refine silent.stdin_iff rfl rfl ?_
    rw [Answers,at_]
    simp only [waits,decide_eq_true_eq]
    exact Iff.rfl
  | @processed job stage move progress router at_ moved =>
    have quiet : ¬ (job.index = i ∧ stage.answering = true) := by
      have quiet := silent.stdin
      rw [at_] at quiet
      exact quiet
    obtain ⟨still,answering⟩ := step_silent silent.router quiet moved
    have asks : Answers cfg i s (.stdin (.process move)) ↔
        job.index = i ∧ ∃ mode outcome, stage = .request mode ∧ move = .answer outcome ∧ Final mode outcome := by
      cases move with
      | answer outcome =>
        simp only [Answers,at_,processing.injEq]
        constructor
        · rintro ⟨_,mode,⟨rfl,rfl⟩,own,final⟩
          exact ⟨own,mode,outcome,rfl,rfl,final⟩
        · rintro ⟨own,mode,_,rfl,same,final⟩
          cases same
          exact ⟨job,mode,⟨rfl,rfl⟩,own,final⟩
      | _ =>
        refine iff_of_false id ?_
        rintro ⟨_,_,_,_,same,_⟩
        cases same
    rw [asks,← answering,← resume_answers]
    exact ⟨fun after => after.stdin,fun quiet => ⟨still,quiet,silent.monitor⟩⟩
  | @reported index data err at_ room =>
    have other : index ≠ i := by
      have quiet := silent.stdin
      rw [at_] at quiet
      exact quiet
    exact iff_of_true ⟨silent.router.write other _,id,silent.monitor⟩ id
  | silenced at_ | left at_ => exact silent.stdin_iff rfl rfl (iff_of_false id id)

theorem Monitor.resume_answers (job : Job) (rest : List Job) (progress : Progress) (i : Nat) :
    (Monitor.resume job rest progress).answers i ↔ job.index = i ∧ progress.answering = true := by
  cases progress <;> exact Iff.rfl

theorem stepMonitor_silent_iff {move : MonitorMove} (silent : Silent i s) (taken : s.stepMonitor cfg move = some next) :
    Silent i next ↔ ¬ Answers cfg i s (.monitor move) := by
  cases stepMonitor_cases taken with
  | woken at_ | noted at_ | rested at_ | refused at_ | refusal at_ | sent at_ | closed at_ | cleared at_ | left at_ =>
    exact iff_of_true ⟨silent.router,silent.stdin,id⟩ id
  | @begun job rest at_ live uncancelled =>
    refine iff_of_true ⟨silent.router,silent.stdin,?_⟩ id
    rw [Monitor.resume_answers,processStdinMessageDirect_answering]
    exact fun both => Bool.false_ne_true both.2
  | @processed job stage rest move progress router at_ moved =>
    have quiet : ¬ (job.index = i ∧ stage.answering = true) := by
      have quiet := silent.monitor
      rw [at_] at quiet
      exact quiet
    obtain ⟨still,answering⟩ := step_silent silent.router quiet moved
    have asks : Answers cfg i s (.monitor (.process move)) ↔
        job.index = i ∧ ∃ mode outcome, stage = .request mode ∧ move = .answer outcome ∧ Final mode outcome := by
      cases move with
      | answer outcome =>
        simp only [Answers,at_,Monitor.processing.injEq]
        constructor
        · rintro ⟨_,mode,_,⟨rfl,rfl,rfl⟩,own,final⟩
          exact ⟨own,mode,outcome,rfl,rfl,final⟩
        · rintro ⟨own,mode,_,rfl,same,final⟩
          cases same
          exact ⟨job,mode,rest,⟨rfl,rfl,rfl⟩,own,final⟩
      | _ => exact iff_of_false id nofun
    rw [asks,← answering,← Monitor.resume_answers job rest]
    exact ⟨fun after => after.monitor,fun quiet => ⟨still,silent.stdin,quiet⟩⟩
  | crashed panic answering broken =>
    have silence : ¬ Answers cfg i s (.monitor move) := by
      rcases answering with rfl | rfl | rfl <;> exact id
    exact iff_of_true ⟨silent.router.same rfl rfl,silent.stdin,silent.monitor⟩ silence

/-- A goroutine with nothing to write gets it by the end of its send or of its wait. -/
theorem Goroutine.step_answering
    (quiet : g.pc.answering = false) (taken : g.step cfg c r move = some (pc,router)) :
    router.lines = r.lines ∧ (pc.answering = true ↔ move.ends) := by
  cases Goroutine.step_cases taken with
  | sent at_ => exact ⟨rfl,iff_of_false Bool.false_ne_true Bool.false_ne_true⟩
  | failed at_ => exact ⟨rfl,iff_of_true rfl rfl⟩
  | received at_ | timedOut at_ => exact ⟨rfl,iff_of_true rfl trivial⟩
  | quit at_ => exact ⟨rfl,iff_of_false Bool.false_ne_true id⟩
  | @removed after d at_ found | @missing after at_ absent =>
    rw [at_] at quiet
    cases after <;> cases quiet
    exact ⟨(delete_same _).lines,iff_of_false Bool.false_ne_true id⟩
  | @closed d after at_ =>
    rw [at_] at quiet
    cases after <;> cases quiet
    exact ⟨(close_same _).lines,iff_of_false Bool.false_ne_true id⟩
  | stuck at_ | interrupted at_ | silenced at_ | delivered at_ | gaveUp at_ | overdue at_ | reported at_ =>
    rw [at_] at quiet
    cases quiet

theorem stepGateway_silent_iff (silent : Silent i s)
    (found : s.router.goroutines c = some g) (moved : g.step cfg c s.router move = some (pc,router)) :
    Silent i { s with router := router.setPc c g pc } ↔ ¬ Answers cfg i s (.gateway c move) := by
  have others := (Goroutine.step_goroutines moved).2
  have asks : Answers cfg i s (.gateway c move) ↔ move.ends ∧ g.job.index = i := by
    simp [Answers,found]
  rw [asks]
  by_cases own : g.job.index = i
  · obtain ⟨lines,answering⟩ := Goroutine.step_answering (silent.router.goroutines c g found own) moved
    rw [← answering,and_iff_left own]
    constructor
    · intro still
      exact Bool.eq_false_iff.mp (still.router.goroutines c { g with pc := pc } (Function.update_self ..) own)
    · intro quiet
      refine ⟨⟨?_,fun d g' listed own' => ?_⟩,silent.stdin,silent.monitor⟩
      · simp only [setPc,lines]
        exact silent.router.lines
      · obtain ⟨_,rfl⟩ | ⟨_,old⟩ := goroutine_of_setPc others listed
        · exact Bool.eq_false_iff.mpr quiet
        · exact silent.router.goroutines d g' old own'
  · refine iff_of_true ⟨⟨fun line member => ?_,fun d g' listed own' => ?_⟩,silent.stdin,silent.monitor⟩
      fun both => own both.2
    · obtain ⟨_,same | ⟨_,_,same⟩ | ⟨_,same⟩⟩ := Goroutine.step_lines moved
      · exact silent.router.lines line (same ▸ member)
      all_goals
        rcases List.mem_cons.mp (same ▸ member) with rfl | old
        · exact own
        · exact silent.router.lines line old
    · obtain ⟨_,rfl⟩ | ⟨_,old⟩ := goroutine_of_setPc others listed
      · exact absurd own' own
      · exact silent.router.goroutines d g' old own'

theorem step_silent_iff {label : Label} (silent : Silent i s) (stepped : step cfg s label = some next) :
    Silent i next ↔ ¬ Answers cfg i s label := by
  have untouched (same : Untouched s next) : Silent i next := by
    refine ⟨silent.router.same same.lines same.goroutines,?_,?_⟩
    · rw [same.stdin]
      exact silent.stdin
    · rw [same.monitor]
      exact silent.monitor
  cases (taken_of_step stepped).2 with
  | stdin moved => exact stepStdin_silent_iff silent moved
  | monitor moved => exact stepMonitor_silent_iff silent moved
  | gateway found moved => exact stepGateway_silent_iff silent found moved
  | reader moved => exact iff_of_true (untouched (stepReader_untouched moved).1) id
  | stop moved => exact iff_of_true (untouched (stepStop_untouched moved).1) id
  | connection | expire => exact iff_of_true ⟨silent.router,silent.stdin,silent.monitor⟩ id
  | drain => exact iff_of_true ⟨silent.router.same rfl rfl,silent.stdin,silent.monitor⟩ id

end steps

/-- A notification never has a line or an answer in hand precisely when no step puts an answer to it in hand. -/
theorem notification_unanswered_iff (cfg : Config) (connected : Bool) (labels : List Label) (t : State)
    (executed : run (step cfg) (start connected) labels = some t) :
    ∀ (i : Nat) data, t.inputs[i]? = some data → data.Notification →
      (Always (step cfg) (Silent i) (start connected) labels ↔
        Meets (step cfg) (fun s label => ¬ Answers cfg i s label) (start connected) labels) ∧
      (Meets (step cfg) (fun s label => ¬ Answers cfg i s label) (start connected) labels →
        ∀ line ∈ t.router.lines, line.index ≠ i) := by
  intro i data _ _
  have silent_iff : Always (step cfg) (Silent i) (start connected) labels ↔
      Meets (step cfg) (fun s label => ¬ Answers cfg i s label) (start connected) labels :=
    always_iff_meets (fun _ _ _ (_ : True) _ => trivial)
      (fun _ _ _ _ silent stepped => step_silent_iff silent stepped) trivial
      ⟨⟨fun _ member => (by cases member),fun _ _ found => by cases found⟩,id,id⟩ executed
  exact ⟨silent_iff,fun meets => ((silent_iff.mpr meets).last executed).router.lines⟩

def initialized : Data :=
  .json (.object [("jsonrpc",.string "2.0"),("method",.string "notifications/initialized")])

theorem initialized_notification : initialized.Notification := by
  refine ⟨⟨.string "notifications/initialized",by simp⟩,fun id member => ?_⟩
  simp at member

def notifies : List Label :=
  [.stdin (.read initialized),.stdin (.limit none),.stdin (.process .go),.gateway 0 (.send none)]

/-- A notification stays without a line while its goroutine waits. -/
theorem sent_notification_unanswered : ∃ t, run (step {}) (start true) notifies = some t ∧ initialized.Notification ∧
      ∀ line ∈ t.router.lines, line.index ≠ 0 := by
  have meets : Meets (step {}) (fun s label => ¬ Answers {} 0 s label) (start true) notifies := by
    refine (meets_cons rfl).mpr ⟨?_,(meets_cons rfl).mpr ⟨fun both => Bool.false_ne_true both.1,?_⟩⟩
    · rintro ⟨_,cause,error⟩
      cases error
    refine (meets_cons rfl).mpr ⟨id,(meets_cons rfl).mpr ⟨?_,trivial⟩⟩
    exact fun both => Bool.false_ne_true both.1
  exact ⟨_,rfl,initialized_notification,
    (notification_unanswered_iff {} true notifies _ rfl 0 initialized rfl initialized_notification).2 meets⟩

/-- Nobody answers the notification, and after the request timeout the router writes an error for it. -/
theorem notification_times_out :
    ∃ t, run (step {}) (start true) (notifies ++ [.gateway 0 .timeout,.gateway 0 .go,.gateway 0 .go,.gateway 0 .go,
        .gateway 0 .go]) = some t ∧ t.inputs = [initialized] ∧ initialized.Notification ∧
      t.router.lines = [⟨0,some (errorResponse .null "request timeout after 30s")⟩] :=
  ⟨_,rfl,rfl,initialized_notification,rfl⟩

end McpBridge.MessageRouter
