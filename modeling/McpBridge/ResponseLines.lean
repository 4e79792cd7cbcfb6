import McpBridge.ResponseChannels

/-!
Every line on stdout carries its message's identifier, and is a response received for it or an error.
-/
namespace McpBridge.MessageRouter
open Values Channels Pending Runs Desks

/-- The line is a response received for the message or an error, with its identifier. -/
def Line.Justified (line : Line) (inputs : List Data) (received : List Response) : Prop :=
  ∃ data response, inputs[line.index]? = some data ∧ line.response = some response ∧ response.id = data.id ∧
    (response ∈ received ∨ ∃ message, response = errorResponse data.id message)

def Stage.response : Stage → Option Response
  | .respond _ response => some response
  | .cleanup _ (.respond response) => some response
  | .close _ _ (.respond response) => some response
  | _ => none

structure Justified (s : State) : Prop where
  lines : ∀ line ∈ s.router.lines, line.Justified s.inputs s.router.received
  direct : ∀ job stage response, s.stdin = .processing job stage → stage.response = some response →
    s.router.Answers job.request response

def Honest (s : State) : Label → Prop
  | .stdin (.process (.answer (.response response))) =>
    ∀ job stage, s.stdin = .processing job stage → response.id = job.request.id
  | _ => True

theorem Data.id_eq {data : Data} {req : Request} (decoded : data.decode = .ok req) : data.id = req.id := by
  cases data with
  | malformed cause => cases decoded
  | json value => exact extractRequestID_eq decoded

variable {inputs : List Data} {line : Line}

theorem Line.Justified.append {received : List Response}
    (justified : line.Justified inputs received) (more : List Data) : line.Justified (inputs ++ more) received := by
  obtain ⟨data,response,read,rest⟩ := justified
  refine ⟨data,response,?_,rest⟩
  have lt : line.index < inputs.length := (List.getElem?_eq_some_iff.mp read).1
  rw [List.getElem?_append_left lt]
  exact read

theorem Line.Justified.grow {received later : List Response}
    (justified : line.Justified inputs received) (grown : ∀ response ∈ received, response ∈ later) :
    line.Justified inputs later := by
  obtain ⟨data,response,read,same,id,source⟩ := justified
  exact ⟨data,response,read,same,id,source.imp (grown response) fun error => error⟩

variable {response : Response} {job : Job}

theorem Job.Listed.justified {r : Router}
    (listed : job.Listed inputs) (answers : r.Answers job.request response) :
    Line.Justified ⟨job.index,some response⟩ inputs r.received :=
  ⟨job.data,response,listed.1,rfl,answers.1.trans (Data.id_eq listed.2).symm,.inl answers.2⟩

section lines
variable {cfg : Config} {s next : State}

variable {stage : Stage} {router : Router} {mode : Mode} {move : Move}

theorem afterAnswer_response {outcome : DirectOutcome}
    (inside : afterAnswer mode outcome = .inside stage) (some : stage.response = some response) :
    outcome = .response response := by
  cases outcome with
  | noClient | failed => cases mode <;> cases inside <;> cases some
  | response other => cases mode <;> cases inside <;> cases some <;> rfl

theorem afterCleanup_response {after : DirectAfter}
    (inside : afterCleanup cfg mode after = .inside stage) (some : stage.response = some response) :
    after = .respond response := by
  rcases after with other | err
  · cases inside
    cases some
    rfl
  · cases mode with
    | single => cases inside
    | attempt n =>
      cases err with
      | none => cases inside
      | some err =>
        simp only [afterCleanup,finish,attemptDirectWithRetries] at inside
        repeat' split at inside
        all_goals
          cases inside
          cases some

theorem Stage.step_response {after : Stage} {r router : Router}
    (moved : stage.step cfg job r move = some (.inside after,router)) (some : after.response = some response) :
    stage.response = .some response ∨ move = .answer (.response response) := by
  generalize inside : Progress.inside after = progress at moved
  cases Stage.step_cases moved with
  | answered mode outcome => exact .inr (by rw [afterAnswer_response inside.symm some])
  | responded mode | interrupted mode =>
    cases mode <;> cases inside
    cases some
  | removed mode after =>
    cases inside
    cases after with
    | respond other => exact .inl some
    | finish err => cases some
  | missing mode after | closed mode c after =>
    rw [afterCleanup_response inside.symm some]
    exact .inl rfl
  | stored | retried | abandoned =>
    cases inside
    cases some
  | handed => cases inside

theorem stage_justified {progress : Progress}
    (ground : Ground s) (justified : Justified s) (at_ : s.stdin = .processing job stage)
    (honest : Honest s (.stdin (.process move))) (moved : stage.step cfg job s.router move = some (progress,router)) :
    Justified { s with stdin := .resume job progress, router := router } := by
  have listed := ground.toKnown.stdin job (by rw [at_]; rfl)
  obtain ⟨-,received,lines⟩ := Stage.step_outputs moved
  have grown : ∀ x ∈ s.router.received, x ∈ router.received := by
    rw [received]
    exact fun _ => List.mem_append_right _
  refine ⟨fun line member => ?_,fun other after response same some => ?_⟩
  · obtain same | ⟨mode,response,rfl,more⟩ := lines
    · exact (justified.lines line (same ▸ member)).grow grown
    · rcases List.mem_cons.mp (more ▸ member) with rfl | old
      · exact listed.justified ((justified.direct job _ response at_ rfl).mono grown)
      · exact (justified.lines line old).grow grown
  · rcases progress with inside | _ | err <;> cases same
    obtain before | rfl := Stage.step_response moved some
    · exact (justified.direct job stage response at_ before).mono grown
    · exact ⟨honest job stage at_,by rw [received]; exact List.mem_cons_self ..⟩

theorem stepStdin_justified {move : StdinMove} (ground : Ground s) (justified : Justified s)
    (honest : Honest s (.stdin move)) (taken : s.stepStdin cfg move = some next) : Justified next := by
  cases ground.stdin_taken taken with
  | malformed | accepted =>
    exact ⟨fun line member => (justified.lines line member).append _,fun _ _ _ same _ => by cases same⟩
  | limited => exact ⟨justified.lines,fun _ _ _ same _ => by cases same⟩
  | begun =>
    refine ⟨justified.lines,fun other stage response same some => ?_⟩
    -- A request begins with a setup or with the gateway.
    unfold processStdinMessageDirect processRequestWithFallback at same
    repeat' split at same
    all_goals
      cases same
      try cases some
  | processed at_ moved => exact stage_justified ground justified at_ honest moved
  | @reported index data err at_ =>
    refine ⟨fun line member => ?_,fun _ _ _ same _ => by cases same⟩
    rcases List.mem_cons.mp member with rfl | old
    · exact ⟨data,_,ground.report index data err at_,rfl,rfl,.inr ⟨err,rfl⟩⟩
    · exact justified.lines line old

/-- A goroutine writes the response that it received, or an error for its request. -/
theorem stepGateway_justified {c : Nat} {move : GatewayMove} {g : Goroutine} {pc : GatewayPc}
    (ground : Ground s) (correlated : Correlated s) (justified : Justified s) (found : s.router.goroutines c = some g)
    (stepped : g.step cfg c s.router move = some (pc,router)) : Justified { s with router := router.setPc c g pc } := by
  obtain ⟨received,written⟩ := Goroutine.step_lines stepped
  have listed := ground.goroutines c g found
  refine ⟨fun line member => ?_,fun job stage response at_ some => ?_⟩
  · simp only [Router.setPc,received] at member ⊢
    rcases written with same | ⟨x,at_,same⟩ | ⟨message,same⟩
    · exact justified.lines line (same ▸ member)
    · rw [same,List.mem_cons] at member
      rcases member with rfl | old
      · obtain ⟨response,rfl,answers⟩ := correlated.delivering c g x found at_
        exact listed.justified answers
      · exact justified.lines line old
    · rw [same,List.mem_cons] at member
      rcases member with rfl | old
      · refine ⟨g.job.data,_,listed.1,rfl,(Data.id_eq listed.2).symm,.inr ⟨message,?_⟩⟩
        rw [Data.id_eq listed.2]
      · exact justified.lines line old
  · have answers := justified.direct job stage response at_ some
    exact answers.mono (fun x member => received ▸ member)

theorem stepReader_justified {move : ReaderMove} (justified : Justified s) (taken : s.stepReader move = some next) :
    Justified next := by
  have same := (stepReader_untouched taken).1
  have grown : ∀ x ∈ s.router.received, x ∈ next.router.received := stepReader_received taken
  refine ⟨fun line member => ?_,fun job stage response at_ some => ?_⟩
  · rw [same.lines] at member
    rw [same.inputs]
    exact (justified.lines line member).grow grown
  · exact (justified.direct job stage response (same.stdin ▸ at_) some).mono grown

end lines

end McpBridge.MessageRouter
