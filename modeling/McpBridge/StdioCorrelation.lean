import McpBridge.ResponseLines
import McpBridge.RouterProgress
import Mathlib.Logic.Relation

/-!
Every request on stdin is answered on stdout once, under its own identifier, while the connection is up and the router
is not stopped.
-/
namespace McpBridge.MessageRouter
open Values Channels Pending Runs Desks

/-- What holds in every state of a run in which the router is not stopped. -/
structure Invariant (cfg : Config) (s : State) : Prop where
  accounts : Accounts s
  ground : Ground s
  sound : Sound s.desk
  proper : Proper s.inputs
  correlated : Correlated s
  justified : Justified s
  bounded : Bounded cfg s

def Allowed (cfg : Config) (s : State) (label : Label) : Prop :=
  label.Running ∧ Honest s label ∧ ∀ next, step cfg s label = some next → Proper next.inputs

section runs
variable {cfg : Config} {s next : State} {label : Label}

theorem Invariant.stdin_hashable (invariant : Invariant cfg s) {job : Job} (at_ : s.stdin.job = some job) :
    job.request.id.Hashable := by
  obtain ⟨read,decoded⟩ := invariant.ground.toKnown.stdin job at_
  exact invariant.proper.hashable _ _ _ read decoded

theorem Label.Running.removable (running : label.Running) : label = .stop .remove → Removable s := by
  rintro rfl
  exact running.elim

/-- The router refines the desk: a step leaves it as it is, is a step of it, or drops a request. -/
theorem Invariant.step_desk (invariant : Invariant cfg s) (running : label.Running) (taken : step cfg s label = some next) :
    Ground next ∧ ((next.desk = s.desk ∨ Step s.desk next.desk) ∧ (label ≠ .reader .route → Settles cfg s label) ∨
      Drop s.desk next.desk ∧ ¬ Settles cfg s label) := by
  have ground := invariant.ground
  obtain ⟨_,way⟩ := taken_of_step taken
  cases way with
  | stdin moved =>
    refine ⟨stepStdin_ground ground moved,?_⟩
    rcases stepStdin_desk invariant.accounts.spawned ground (fun _ => invariant.stdin_hashable) moved with
      ⟨settles,step⟩ | ⟨loses,drop⟩
    · exact .inl ⟨step,fun _ => settles⟩
    · exact .inr ⟨drop,loses⟩
  | monitor moved =>
    obtain ⟨kept,same,_⟩ := stepMonitor_ground ground moved
    exact ⟨kept,.inl ⟨.inl same,fun _ => trivial⟩⟩
  | reader moved =>
    obtain ⟨kept,same⟩ := stepReader_ground ground moved
    refine ⟨kept,.inl ⟨.inl same,fun other => ?_⟩⟩
    unfold Settles
    split <;> trivial
  | gateway found moved =>
    obtain ⟨kept,step⟩ := stepGateway_ground ground found moved
    exact ⟨kept,.inl ⟨step,fun _ => trivial⟩⟩
  | stop | connection => exact running.elim
  | expire | drain =>
    exact ⟨ground.frame rfl rfl rfl rfl rfl rfl rfl rfl,.inl ⟨.inl rfl,fun _ => trivial⟩⟩

theorem Invariant.step_correlated (invariant : Invariant cfg s) (running : label.Running) (honest : Honest s label)
    (taken : step cfg s label = some next) : Correlated next ∧ Justified next := by
  obtain ⟨accounts,ground,sound,proper,correlated,justified,_⟩ := invariant
  have quiet : ∀ {t : State}, t.router.pendingReqs = s.router.pendingReqs → t.router.goroutines = s.router.goroutines →
      t.router.lines = s.router.lines → t.router.received = s.router.received → t.held = s.held → t.stdin = s.stdin →
      t.reader = s.reader → t.inputs = s.inputs → Correlated t ∧ Justified t := by
    intro t table goroutines lines received held stdin reader inputs
    refine ⟨correlated.plain accounts.spawned table goroutines (by rw [held]; exact fun _ _ => id) reader
      (by rw [received]; exact fun _ => id),?_,?_⟩
    · rw [lines,received,inputs]
      exact justified.lines
    · unfold Router.Answers
      rw [stdin,received]
      exact justified.direct
  obtain ⟨_,way⟩ := taken_of_step taken
  cases way with
  | stdin moved =>
    exact ⟨stepStdin_correlated accounts ground sound proper correlated moved,
      stepStdin_justified ground justified honest moved⟩
  | monitor moved =>
    obtain ⟨kept,_,router,stdin,reader,inputs⟩ := stepMonitor_ground ground moved
    refine quiet (by rw [router]) (by rw [router]) (by rw [router]) (by rw [router]) ?_ stdin reader inputs
    funext h
    cases h with
    | stdin => simp [State.held,stdin]
    | monitor => rw [State.held,State.held,kept.monitor_held,ground.monitor_held]
    | reader => simp [State.held,reader]
    | gateway c => simp [State.held,router]
    | stop => simp [State.held,kept.unstopped,ground.unstopped]
  | reader moved =>
    exact ⟨stepReader_correlated accounts ground correlated moved,stepReader_justified justified moved⟩
  | gateway found moved =>
    exact ⟨stepGateway_correlated accounts ground sound proper correlated found moved,
      stepGateway_justified ground correlated justified found moved⟩
  | stop | connection => exact running.elim
  | expire | drain =>
    exact quiet rfl rfl rfl rfl (by funext h; cases h <;> rfl) rfl rfl rfl

theorem Invariant.step (invariant : Invariant cfg s) (allowed : Allowed cfg s label)
    (taken : step cfg s label = some next) : Invariant cfg next := by
  obtain ⟨running,honest,proper⟩ := allowed
  obtain ⟨ground,desk⟩ := invariant.step_desk running taken
  obtain ⟨correlated,justified⟩ := invariant.step_correlated running honest taken
  refine ⟨(step_accounts invariant.accounts running.removable taken).1,ground,?_,proper next taken,correlated,justified,
    step_bounded invariant.bounded taken⟩
  rcases desk with ⟨same | step,_⟩ | ⟨drop,_⟩
  · rw [same]
    exact invariant.sound
  · obtain ⟨j,touches,_⟩ := step.touches invariant.sound
    exact touches.sound invariant.sound
  · obtain ⟨j,touches,_⟩ := drop.touches invariant.sound
    exact touches.sound invariant.sound

theorem start_ground : Ground (start true) := by
  refine ⟨⟨rfl,rfl,rfl,rfl,rfl,fun _ => ⟨nofun,nofun⟩,fun _ _ found => by cases found⟩,?_⟩
  constructor
  · exact fun _ same => by cases same
  · exact fun _ _ _ same => by cases same
  · exact fun _ _ found => by cases found

theorem Proper.empty : Proper [] where
  hashable _ _ _ read := by cases read
  distinct _ _ _ _ _ _ read := by cases read

theorem start_correlated : Correlated (start true) where
  routing _ same := by cases same
  entry _ _ _ found := by cases found
  sending _ _ _ found := by cases found
  value _ _ _ found := by cases found
  pristine _ _ found := by cases found
  delivering _ _ _ found := by cases found

theorem start_invariant : Invariant cfg (start true) where
  accounts := start_accounts true
  ground := start_ground
  sound := Sound.empty
  proper := Proper.empty
  correlated := start_correlated
  justified := ⟨fun _ member => (by cases member),fun _ _ _ same => by cases same⟩
  bounded := fun _ _ same => by cases same

end runs

inductive Worker where
  | stdin
  | gateway (channel : Nat)

def Label.worker : Label → Option Worker
  | .stdin _ => some .stdin
  | .gateway c _ => some (.gateway c)
  | _ => none

def State.worksOn (s : State) (i : Nat) : Worker → Prop
  | .stdin => ∃ b, s.stdin.task = some (i,b)
  | .gateway c => ∃ g, s.router.goroutines c = some g ∧ g.job.index = i ∧ g.pc.live = true

def State.rank (cfg : Config) (s : State) : Worker → Nat
  | .stdin => s.stdin.rank cfg
  | .gateway c => (s.router.goroutines c).elim 0 fun g => g.pc.rank

def Router.linesFor (r : Router) (i : Nat) : List Line := r.lines.filter fun line => line.index == i

/-- The message has at most one line, and one when nobody works on it; it carries its identifier and is a response
    received for it, or an error. -/
structure AnsweredOnce (s : State) (i : Nat) (data : Data) : Prop where
  atMostOne : (s.router.linesFor i).length ≤ 1
  exactlyOne : (∀ w, ¬ s.worksOn i w) → (s.router.linesFor i).length = 1
  own : ∀ line ∈ s.router.linesFor i, ∃ response, line.response = some response ∧ response.id = data.id ∧
    (response ∈ s.router.received ∨ ∃ message, response = errorResponse data.id message)

open State

section answers
variable {cfg : Config} {s : State} {i : Nat}

theorem linesFor_length (r : Router) : (r.linesFor i).length = (r.lines.map Line.index).count i := by
  rw [Router.linesFor,List.count,List.countP_map,← List.countP_eq_length_filter]
  rfl

theorem finished_iff : Finished s.desk i ↔ ∀ w, ¬ s.worksOn i w := by
  constructor
  · rintro ⟨away,unworked⟩ w works
    cases w with
    | stdin =>
      obtain ⟨b,task⟩ := works
      exact away b task
    | gateway c =>
      obtain ⟨g,found,rfl,live⟩ := works
      exact unworked c (by simp [desk,found,Goroutine.task,live])
  · intro idle
    refine ⟨fun b task => idle .stdin ⟨b,task⟩,fun c task => ?_⟩
    obtain ⟨g,found,same⟩ := Option.map_eq_some_iff.mp task
    refine idle (.gateway c) ⟨g,found,?_⟩
    simp only [Goroutine.task,Prod.mk.injEq] at same
    exact same

/-- In every state of a run, no request is lost precisely when every message is answered once. -/
theorem Invariant.kept_iff (invariant : Invariant cfg s) :
    Kept s.desk ↔ ∀ (i : Nat) data, s.inputs[i]? = some data → AnsweredOnce s i data := by
  constructor
  · intro kept i data read
    have lt : i < s.desk.accepted := (List.getElem?_eq_some_iff.mp read).1
    refine ⟨?_,fun idle => ?_,fun line member => ?_⟩
    · rw [linesFor_length]
      exact invariant.sound.count_le_one lt
    · rw [linesFor_length]
      exact invariant.sound.count_eq_one lt (finished_iff.mpr idle) (kept i lt)
    · obtain ⟨listed,index⟩ := List.mem_filter.mp member
      obtain ⟨other,response,read',same,id,source⟩ := invariant.justified.lines line listed
      rw [beq_iff_eq.mp index,read] at read'
      cases read'
      exact ⟨response,same,id,source⟩
  · rintro answered i lt ⟨finished,zero⟩
    obtain ⟨data,read⟩ : ∃ data, s.inputs[i]? = some data := ⟨_,List.getElem?_eq_getElem lt⟩
    have one := (answered i data read).exactlyOne (finished_iff.mp finished)
    rw [linesFor_length] at one
    have none : (s.router.lines.map Line.index).count i = 0 := zero
    omega

end answers

theorem Proper.of_initial {inputs more : List Data} (proper : Proper more) (grown : inputs <+: more) : Proper inputs := by
  have read : ∀ {i : Nat} {data : Data}, inputs[i]? = some data → more[i]? = some data := by
    intro i data found
    obtain ⟨rest,rfl⟩ := grown
    rw [List.getElem?_append_left (List.getElem?_eq_some_iff.mp found).1]
    exact found
  exact ⟨fun i data req found => proper.hashable i data req (read found),
    fun i j data data' req req' found found' => proper.distinct i j data data' req req' (read found) (read found')⟩

theorem meets_proper {cfg : Config} {s t : State} {labels : List Label} (executed : run (step cfg) s labels = some t)
    (proper : Proper t.inputs) :
    Meets (step cfg) (fun s label => ∀ next, step cfg s label = some next → Proper next.inputs) s labels := by
  induction labels generalizing s with
  | nil => trivial
  | cons label rest ih =>
    obtain ⟨next,taken,tail⟩ := run_cons_eq_some.mp executed
    refine (meets_cons taken).mpr ⟨fun other same => ?_,ih tail⟩
    rw [taken] at same
    cases same
    exact proper.of_initial (run_inputs tail)

def directRouter (maxRetries : Int) : Config :=
  { directManager := true
    direct := { enabled := true, maxConnections := 10, fallback := { enabled := true, maxRetries := maxRetries } } }

theorem two_requests_proper : Proper [toolsList (.string "a"),message "initialize" (.string "b")] := by
  constructor
  · intro i data req read decoded
    match i with
    | 0 => cases read; cases decoded; rfl
    | 1 => cases read; cases decoded; rfl
    | n + 2 => cases read
  · intro i j data data' req req' read read' decoded decoded' same
    match i,j with
    | 0,0 => rfl
    | 1,1 => rfl
    | 0,1 => cases read; cases read'; cases decoded; cases decoded'; simp at same
    | 1,0 => cases read; cases read'; cases decoded; cases decoded'; simp at same
    | n + 2,_ => cases read
    | 0,n + 2 => cases read'
    | 1,n + 2 => cases read'

/-- While no request is lost a run is a history of the desk: messages accepted, handed over and answered. -/
theorem router_refines_desk (cfg : Config) (labels : List Label) (t : State)
    (executed : run (step cfg) (start true) labels = some t) (running : ∀ label ∈ labels, label.Running)
    (honest : Meets (step cfg) Honest (start true) labels) (proper : Proper t.inputs)
    (settles : Meets (step cfg) (Settles cfg) (start true) labels) : Relation.ReflTransGen Step {} t.desk := by
  have allowed : Meets (step cfg) (Allowed cfg) (start true) labels :=
    (meets_of_mem (fun label member _ => running label member)).and (honest.and (meets_proper executed proper))
  have kept : ∀ s label next, Invariant cfg s ∧ Relation.ReflTransGen Step {} s.desk →
      Allowed cfg s label ∧ Settles cfg s label → step cfg s label = some next →
      Invariant cfg next ∧ Relation.ReflTransGen Step {} next.desk := by
    intro s label next ⟨invariant,path⟩ ⟨allowed,settles⟩ taken
    refine ⟨invariant.step allowed taken,?_⟩
    rcases (invariant.step_desk allowed.1 taken).2 with ⟨same | step,_⟩ | ⟨_,loses⟩
    · rwa [same]
    · exact path.tail step
    · exact absurd settles loses
  exact (run_keeps kept ⟨start_invariant,.refl⟩ (allowed.and settles) executed).2

def limited : List Label :=
  [.stdin (.read (toolsList (.string "a"))),.stdin (.limit (some "")),.stdin .report]

theorem limited_refines_desk : ∃ t, run (step (directRouter 1)) (start true) limited = some t ∧
    t.desk.answers = [0] ∧ Relation.ReflTransGen Step {} t.desk := by
  refine ⟨_,rfl,rfl,router_refines_desk (directRouter 1) limited _ rfl (by simp [limited,Label.Running]) ?_
    (two_requests_proper.of_initial ⟨_,rfl⟩) ?_⟩
  all_goals
    iterate 3 refine (meets_cons rfl).mpr ⟨trivial,?_⟩
    trivial

end McpBridge.MessageRouter
