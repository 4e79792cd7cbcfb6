import McpBridge.Ledger
import McpBridge.RouterProgress
import McpBridge.StdioHandler

/-!
The stdio handler and the message router, joined by `stdinChan`.
-/
namespace McpBridge.StdinEnd
open Values Runs MessageRouter StdioHandler List

/-- The stdin handler, its channel and the router. -/
structure System where
  handler : Handler
  done : Bool := false
  stdinChan : List (List UInt8) := []
  router : State

def start (connected : Bool) (input : List UInt8) : System :=
  { handler := .loop input, router := MessageRouter.start connected }

inductive SystemLabel where
  | cancel
  | handler (move : HandlerMove)
  | receive
  | router (label : Label)

/-- What a receive yields and leaves in the channel: one that is closed and drained yields `nil`. -/
def System.receive (s : System) : Option (List UInt8 × List (List UInt8)) :=
  match s.stdinChan,s.handler with
  | line :: rest,_ => some (line,rest)
  | [],.closed => some ([],[])
  | [],_ => none

/-- A step of the two. `parse` decodes the messages, as `encoding/json` does. -/
def step (cfg : Config) (parse : List UInt8 → Data) (s : System) (label : SystemLabel) : Option System :=
  if s.router.router.panic.isSome then none
  else match label with
    | .cancel => some { s with done := true }
    | .handler move =>
      (s.handler.step s.done s.stdinChan move).map fun (handler,stdinChan) =>
        { s with handler := handler, stdinChan := stdinChan }
    | .receive =>
      s.receive.bind fun (data,rest) =>
        (MessageRouter.step cfg s.router (.stdin (.read (parse data)))).map fun router =>
          { s with stdinChan := rest, router := router }
    | .router (.stdin (.read _)) => none
    | .router label => (MessageRouter.step cfg s.router label).map fun router => { s with router := router }

/-- No line of stdin is left. -/
def System.Drained (s : System) : Prop := s.handler = .closed ∧ s.stdinChan = []

inductive SystemStep (cfg : Config) (parse : List UInt8 → Data) (s : System) : SystemLabel → System → Prop
  | cancel : SystemStep cfg parse s .cancel { s with done := true }
  | handler {move : HandlerMove} {handler : Handler} {stdinChan : List (List UInt8)}
      (moved : s.handler.step s.done s.stdinChan move = some (handler,stdinChan)) :
      SystemStep cfg parse s (.handler move) { s with handler := handler, stdinChan := stdinChan }
  | received {line : List UInt8} {rest : List (List UInt8)} {router : State} (waiting : s.stdinChan = line :: rest)
      (read : MessageRouter.step cfg s.router (.stdin (.read (parse line))) = some router) :
      SystemStep cfg parse s .receive { s with stdinChan := rest, router := router }
  | drained {router : State} (drained : s.Drained)
      (read : MessageRouter.step cfg s.router (.stdin (.read (parse []))) = some router) :
      SystemStep cfg parse s .receive { s with stdinChan := [], router := router }
  | router {label : Label} {router : State} (other : ∀ data, label ≠ .stdin (.read data))
      (moved : MessageRouter.step cfg s.router label = some router) :
      SystemStep cfg parse s (.router label) { s with router := router }

theorem step_cases {cfg : Config} {parse : List UInt8 → Data} {s next : System} {label : SystemLabel}
    (taken : step cfg parse s label = some next) : SystemStep cfg parse s label next := by
  revert taken
  fun_cases step cfg parse s label <;> intro taken
  case case1 | case5 => cases taken
  case case2 =>
    cases taken
    exact .cancel
  case case3 =>
    obtain ⟨⟨handler,stdinChan⟩,moved,rfl⟩ := Option.map_eq_some_iff.mp taken
    exact .handler moved
  case case4 =>
    obtain ⟨⟨data,rest⟩,received,mapped⟩ := Option.bind_eq_some_iff.mp taken
    obtain ⟨router,read,rfl⟩ := Option.map_eq_some_iff.mp mapped
    unfold System.receive at received
    split at received <;> cases received
    next waiting => exact .received waiting read
    next empty closed => exact .drained ⟨closed,empty⟩ read
  case case6 other =>
    obtain ⟨router,moved,rfl⟩ := Option.map_eq_some_iff.mp taken
    exact .router (fun data same => other data same) moved

/-! ### What the loop receives -/

def System.pending (s : System) : List (List UInt8) := s.stdinChan ++ s.handler.pending

/-- The loop receives a line of stdin. -/
def ReadsLine (s : System) : SystemLabel → Prop
  | .receive => ¬ s.Drained
  | _ => True

/-- A request is given up only unbegun. -/
def GivesUp (s : System) : SystemLabel → Prop
  | .router label => ∀ i, GivesUpUnbegun i s.router label
  | _ => True

/-- The count of retries does not wrap around. -/
def Counts (s : System) : SystemLabel → Prop
  | .router (.stdin _) => ∀ job stage, s.router.stdin = .processing job stage → ¬ stage.Wraps
  | _ => True

/-- What the router has read and has still to receive are the first lines of stdin. -/
def Feeds (parse : List UInt8 → Data) (input : List UInt8) (s : System) : Prop :=
  s.router.inputs ++ s.pending.map parse <+: (lines input).map parse

section laws
variable {cfg : Config} {parse : List UInt8 → Data} {input : List UInt8} {s next : System} {label : SystemLabel}

theorem inputs_of_read {r r' : State} {data : Data}
    (read : MessageRouter.step cfg r (.stdin (.read data)) = some r') : r'.inputs = r.inputs ++ [data] := by
  obtain ⟨_,⟨moved⟩⟩ := taken_of_step read
  cases stepStdin_cases moved with
  | malformed | accepted => rfl

theorem inputs_of_other {r r' : State} {label : Label} (other : ∀ data, label ≠ .stdin (.read data))
    (moved : MessageRouter.step cfg r label = some r') : r'.inputs = r.inputs := by
  by_cases own : ∃ move, label = .stdin move
  · obtain ⟨move,rfl⟩ := own
    obtain ⟨_,⟨moved⟩⟩ := taken_of_step moved
    cases stepStdin_cases moved with
    | malformed | accepted => exact absurd rfl (other _)
    | _ => rfl
  · exact (step_stdin (fun move same => own ⟨move,same⟩) moved).2

theorem step_feeds (feeds : Feeds parse input s) (fine : ReadsLine s label)
    (taken : step cfg parse s label = some next) : Feeds parse input next := by
  cases step_cases taken with
  | cancel => exact feeds
  | handler moved =>
    refine ((prefix_append_right_inj _).mpr ?_).trans feeds
    exact (Handler.step_prefix moved).map parse
  | @received line rest router waiting read =>
    have moved : router.inputs ++ (rest ++ s.handler.pending).map parse = s.router.inputs ++ s.pending.map parse := by
      rw [inputs_of_read read,System.pending,waiting]
      simp
    rw [Feeds,← moved] at feeds
    exact feeds
  | drained drained => exact absurd drained fine
  | router other moved =>
    have same := inputs_of_other other moved
    unfold Feeds
    rw [same]
    exact feeds

structure Answers (s : System) : Prop where
  ledger : Ledger s.router
  singles : ∀ i, Single i s.router

theorem step_ledger (ledger : Ledger s.router) (taken : step cfg parse s label = some next) : Ledger next.router := by
  cases step_cases taken with
  | cancel | handler => exact ledger
  | received _ moved | drained _ moved | router _ moved => exact MessageRouter.step_ledger ledger moved

theorem step_singles_iff (ledger : Ledger s.router) (singles : ∀ i, Single i s.router)
    (taken : step cfg parse s label = some next) : (∀ i, Single i next.router) ↔ GivesUp s label := by
  cases step_cases taken with
  | cancel | handler => exact iff_of_true singles trivial
  | received _ read | drained _ read =>
    exact iff_of_true (fun i => (step_single_iff ledger (singles i) read).mpr trivial) trivial
  | router other moved => exact forall_congr' fun i => step_single_iff ledger (singles i) moved

theorem step_answers (answers : Answers s) (fine : GivesUp s label) (taken : step cfg parse s label = some next) :
    Answers next :=
  ⟨step_ledger answers.ledger taken,(step_singles_iff answers.ledger answers.singles taken).mpr fine⟩

end laws

/-- The step is one of `handleStdinToWS`. -/
def SystemLabel.loop : SystemLabel → Bool
  | .receive => true
  | .router (.stdin _) => true
  | _ => false

def work (cfg : Config) : Stdin → Nat
  | .exited => 0
  | stdin => stdin.rank cfg + 1

def perMessage (cfg : Config) : Nat := 10 * (cfg.direct.fallback.maxRetries + 1).toNat + 11

def System.work (cfg : Config) (s : System) : Nat :=
  StdinEnd.work cfg s.router.stdin + s.pending.length * perMessage cfg

open SystemLabel

section progress
variable {cfg : Config} {parse : List UInt8 → Data} {r r' : State} {s next : System} {label : SystemLabel}

theorem work_of_move {move : StdinMove} (bounded : Bounded cfg r)
    (counts : ∀ job stage, r.stdin = .processing job stage → ¬ stage.Wraps) (other : ∀ data, move ≠ .read data)
    (moved : r.stepStdin cfg move = some r') : work cfg r'.stdin < work cfg r.stdin := by
  cases busy : r.stdin.task with
  | some task =>
    have nearer := stepStdin_progress bounded counts busy moved
    have before : work cfg r.stdin = r.stdin.rank cfg + 1 := by cases at_ : r.stdin <;> simp_all [work,Stdin.task]
    have after : work cfg r'.stdin ≤ r'.stdin.rank cfg + 1 := by cases r'.stdin <;> simp [work]
    omega
  | none =>
    cases stepStdin_cases moved with
    | malformed | accepted => exact absurd rfl (other _)
    | left at_ =>
      rw [at_]
      exact Nat.zero_lt_one
    | _ at_ =>
      rw [at_] at busy
      cases busy

theorem work_of_read {data : Data} (read : MessageRouter.step cfg r (.stdin (.read data)) = some r') :
    work cfg r'.stdin < work cfg r.stdin + perMessage cfg := by
  obtain ⟨_,⟨moved⟩⟩ := taken_of_step read
  cases stepStdin_cases moved with
  | malformed at_ | accepted at_ =>
    rw [at_]
    simp only [work,Stdin.rank,perMessage]
    omega

theorem step_work (bounded : Bounded cfg s.router) (line : ReadsLine s label) (counts : Counts s label)
    (taken : step cfg parse s label = some next) :
    Bounded cfg next.router ∧ next.work cfg + label.loop.toNat ≤ s.work cfg := by
  cases step_cases taken with
  | cancel => exact ⟨bounded,Nat.le_refl _⟩
  | handler moved =>
    refine ⟨bounded,Nat.add_le_add_left (Nat.mul_le_mul_right _ ?_) _⟩
    exact (Handler.step_prefix moved).length_le
  | @received first rest router waiting read =>
    refine ⟨step_bounded bounded read,?_⟩
    have less := work_of_read read
    have fewer : s.pending.length = (rest ++ s.handler.pending).length + 1 := by
      rw [System.pending,waiting]
      rfl
    have before : s.work cfg = StdinEnd.work cfg s.router.stdin +
        ((rest ++ s.handler.pending).length * perMessage cfg + perMessage cfg) := by
      rw [System.work,fewer,Nat.add_one_mul]
    show StdinEnd.work cfg router.stdin + (rest ++ s.handler.pending).length * perMessage cfg + 1 ≤ _
    omega
  | drained drained => exact absurd drained line
  | @router label router other moved =>
    refine ⟨step_bounded bounded moved,?_⟩
    by_cases own : ∃ move, label = .stdin move
    · obtain ⟨move,rfl⟩ := own
      obtain ⟨_,⟨moved⟩⟩ := taken_of_step moved
      have less := work_of_move bounded counts (fun data same => other data (same ▸ rfl)) moved
      show StdinEnd.work cfg router.stdin + s.pending.length * perMessage cfg + 1 ≤
        StdinEnd.work cfg s.router.stdin + s.pending.length * perMessage cfg
      omega
    · have same := (step_stdin (fun move equal => own ⟨move,equal⟩) moved).1
      have apart : loop (.router label) = false := by
        cases label with
        | stdin move => exact absurd ⟨move,rfl⟩ own
        | _ => rfl
      rw [apart,System.work,same]
      exact Nat.le_refl _

end progress

section endless
variable (cfg : Config) {parse : List UInt8 → Data}

theorem printed (parse : List UInt8 → Data) (s : System) (up : s.router.router.panic = none) :
    ∃ labels, run (step cfg parse) s labels =
      some { s with router := { s.router with router := { s.router.router with buffered := 0 } } } := by
  generalize filled : s.router.router.buffered = n
  induction n generalizing s with
  | zero => exact ⟨[],by rw [← filled]; rfl⟩
  | succ n ih =>
    have drain : step cfg parse s (.router .drain) = some { s with
        router := { s.router with router := { s.router.router with buffered := n } } } := by
      simp [step,MessageRouter.step,up,filled]
    obtain ⟨labels,executed⟩ := ih { s with
      router := { s.router with router := { s.router.router with buffered := n } } } up rfl
    exact ⟨.router .drain :: labels,run_cons_eq_some.mpr ⟨_,drain,executed⟩⟩

/-- The loop is about to receive from the closed and drained channel. -/
structure Starved (s : System) : Prop where
  drained : s.Drained
  idle : s.router.stdin = .idle
  up : s.router.router.panic = none

section
variable {s : System} {cause : String} (empty : parse [] = .malformed cause) (starved : Starved s)
include empty starved

theorem starved_answers (printed : s.router.router.buffered = 0) :
    ∃ t, run (step cfg parse) s [.receive,.router (.stdin .report),.router .drain] = some t ∧ Starved t ∧
      t.router.router.buffered = 0 ∧ t.router.router.lines.length = s.router.router.lines.length + 1 := by
  obtain ⟨⟨closed,drained⟩,idle,up⟩ := starved
  let asked : State := { s.router with
    stdin := .report s.router.inputs.length (parse []) ("invalid JSON: " ++ cause)
    inputs := s.router.inputs ++ [parse []] }
  let answered : State := { asked with
    stdin := .idle
    router := s.router.router.write s.router.inputs.length
      (some (errorResponse (parse []).id ("invalid JSON: " ++ cause))) }
  have received : step cfg parse s .receive = some { s with stdinChan := [], router := asked } := by
    simp [step,System.receive,closed,drained,MessageRouter.step,up,State.stepStdin,idle,empty,Data.decode,asked]
  have reported : step cfg parse { s with stdinChan := [], router := asked } (.router (.stdin .report)) =
      some { s with stdinChan := [], router := answered } := by
    simp [step,MessageRouter.step,up,State.stepStdin,asked,answered,Router.room,printed,defaultChannelBufferSize]
  have drain : step cfg parse { s with stdinChan := [], router := answered } (.router .drain) =
      some { s with stdinChan := [], router := { answered with router := { answered.router with buffered := 0 } } } := by
    simp [step,MessageRouter.step,up,answered,asked,Router.write,printed]
  refine ⟨_,run_cons_eq_some.mpr ⟨_,received,run_cons_eq_some.mpr ⟨_,reported,run_cons_eq_some.mpr ⟨_,drain,rfl⟩⟩⟩,
    ⟨⟨closed,rfl⟩,rfl,up⟩,rfl,rfl⟩

/-- At the closed and drained channel, the loop can write any number of lines. -/
theorem starved_endless (n : Nat) : ∃ labels t, run (step cfg parse) s labels = some t ∧ t.router.router.buffered = 0 ∧
      t.router.router.lines.length = s.router.router.lines.length + n ∧ n ≤ labels.countP loop := by
  have endless : ∃ labels t, run (step cfg parse) s labels = some t ∧ Starved t ∧ t.router.router.buffered = 0 ∧
      t.router.router.lines.length = s.router.router.lines.length + n ∧ n ≤ labels.countP loop := by
    induction n with
    | zero =>
      obtain ⟨labels,executed⟩ := printed cfg parse s starved.up
      exact ⟨labels,_,executed,⟨starved.drained,starved.idle,starved.up⟩,rfl,rfl,Nat.zero_le _⟩
    | succ n ih =>
      obtain ⟨labels,t,executed,starved',printed,length,many⟩ := ih
      obtain ⟨u,round,starved'',printed',longer⟩ := starved_answers cfg empty starved' printed
      refine ⟨_,u,run_append.mpr ⟨t,executed,round⟩,starved'',printed',by omega,?_⟩
      rw [countP_append]
      exact Nat.add_le_add many (Nat.le_succ 1)
  obtain ⟨labels,t,executed,_,rest⟩ := endless
  exact ⟨labels,t,executed,rest⟩

end

theorem starved_of_step {cfg : Config} {s next : System} {label : SystemLabel} (missed : ¬ ReadsLine s label)
    (taken : step cfg parse s label = some next) : Starved s := by
  cases step_cases taken with
  | received waiting => exact absurd (fun drained => by rw [drained.2] at waiting; cases waiting) missed
  | drained drained read =>
    obtain ⟨up,⟨moved⟩⟩ := taken_of_step read
    cases stepStdin_cases moved with
    | malformed at_ | accepted at_ => exact ⟨drained,at_,up⟩
  | cancel | handler | router => exact absurd trivial missed

end endless

section runs
variable {cfg : Config} {parse : List UInt8 → Data} {connected : Bool} {input : List UInt8} {labels : List SystemLabel}
  {t : System}

theorem start_answers (connected : Bool) (input : List UInt8) : Answers (start connected input) :=
  ⟨start_ledger connected,fun _ => Nat.zero_le 1⟩

section
variable (executed : run (step cfg parse) (start connected input) labels = some t)
include executed

/-- While the loop receives lines, the router reads lines of stdin, and writes no more than it reads. -/
theorem run_lines_le
    (meets : Meets (step cfg parse) (fun s label => ReadsLine s label ∧ GivesUp s label) (start connected input) labels) :
    t.router.inputs <+: (lines input).map parse ∧ t.router.router.lines.length ≤ (lines input).length := by
  have feeds : Feeds parse input t :=
    run_keeps (fun _ _ _ feeds fine taken => step_feeds feeds fine.1 taken) (prefix_rfl : Feeds parse input (start connected input)) meets
      executed
  have answers : Answers t :=
    run_keeps (fun _ _ _ answers fine taken => step_answers answers fine.2 taken) (start_answers connected input) meets
      executed
  have read : t.router.inputs <+: (lines input).map parse := (prefix_append _ _).trans feeds
  refine ⟨read,?_⟩
  calc t.router.router.lines.length ≤ t.router.inputs.length := lines_le_inputs answers.ledger answers.singles
    _ ≤ ((lines input).map parse).length := read.length_le
    _ = (lines input).length := length_map _

theorem run_loop_le
    (meets : Meets (step cfg parse) (fun s label => ReadsLine s label ∧ Counts s label) (start connected input) labels) :
    labels.countP loop ≤ (lines input).length * perMessage cfg + 1 := by
  have bound : t.work cfg + labels.countP loop ≤ (start connected input).work cfg :=
    run_countP_le (fun _ _ _ bounded fine taken => step_work bounded fine.1 fine.2 taken)
      (fun _ _ same => by cases same) meets executed
  have first : (start connected input).work cfg = 1 + (lines input).length * perMessage cfg := rfl
  omega

end

end runs

/-- For every finite stdin, if the loop receives only lines of stdin and gives up no begun request, the messages read
    are the first lines of stdin and stdout has at most as many lines; if the attempts can be counted, the loop takes a
    bounded number of steps. Once it can receive something else, neither is bounded, and precisely the requests given up
    after they were begun can have two answers. -/
theorem end_of_stdin_bounded (cfg : Config) (parse : List UInt8 → Data) (connected : Bool) (input : List UInt8)
    (labels : List SystemLabel) (t : System) (cause : String) (empty : parse [] = .malformed cause)
    (executed : run (step cfg parse) (start connected input) labels = some t) :
    (Meets (step cfg parse) (fun s label => ReadsLine s label ∧ GivesUp s label) (start connected input) labels →
      t.router.inputs <+: (lines input).map parse ∧ t.router.router.lines.length ≤ (lines input).length) ∧
    (Meets (step cfg parse) (fun s label => ReadsLine s label ∧ Counts s label) (start connected input) labels →
      labels.countP loop ≤ (lines input).length * perMessage cfg + 1) ∧
    (∀ label next, ¬ ReadsLine t label → step cfg parse t label = some next → ∀ n, ∃ more u,
      run (step cfg parse) t more = some u ∧ u.router.router.buffered = 0 ∧
        u.router.router.lines.length = t.router.router.lines.length + n ∧ n ≤ more.countP loop) ∧
    (Always (step cfg parse) (fun s => ∀ i, Single i s.router) (start connected input) labels ↔
      Meets (step cfg parse) GivesUp (start connected input) labels) := by
  refine ⟨run_lines_le executed,run_loop_le executed,fun label next missed taken n => ?_,?_⟩
  · exact starved_endless cfg empty (starved_of_step missed taken) n
  · exact always_iff_meets (fun _ _ _ ledger taken => step_ledger ledger taken)
      (fun _ _ _ ledger singles taken => step_singles_iff ledger singles taken) (start_ledger connected)
      (start_answers connected input).singles executed

/-- What `encoding/json` says about no bytes, and about an object that is only opened. -/
def unfinished (_ : List UInt8) : Data := .malformed "unexpected end of JSON input"

/-- A line with an opening brace is read, sent, received and answered; then the channel is closed. -/
def oneLine : List SystemLabel :=
  [.handler .go,.handler .go,.handler .go,.receive,.router (.stdin .report),.handler .go,.handler .go]

/-- A line that is no JSON is answered within the bounds. -/
theorem one_line_answered_once :
    ∃ t, run (step {} unfinished) (start true [0x7b,newline]) oneLine = some t ∧ t.Drained ∧
      t.router.router.lines.length ≤ 1 ∧ oneLine.countP loop ≤ 22 := by
  have meets : Meets (step {} unfinished) (fun s label => ReadsLine s label ∧ GivesUp s label ∧ Counts s label)
      (start true [0x7b,newline]) oneLine := by
    refine (meets_cons rfl).mpr ⟨⟨trivial,trivial,trivial⟩,(meets_cons rfl).mpr ⟨⟨trivial,trivial,trivial⟩,?_⟩⟩
    refine (meets_cons rfl).mpr ⟨⟨trivial,trivial,trivial⟩,(meets_cons rfl).mpr ⟨⟨?_,trivial,trivial⟩,?_⟩⟩
    · exact fun drained => by cases drained.2
    refine (meets_cons rfl).mpr ⟨⟨trivial,fun _ => trivial,fun _ _ same => by cases same⟩,?_⟩
    exact (meets_cons rfl).mpr ⟨⟨trivial,trivial,trivial⟩,(meets_cons rfl).mpr ⟨⟨trivial,trivial,trivial⟩,trivial⟩⟩
  obtain ⟨few,finite,_⟩ := end_of_stdin_bounded {} unfinished true [0x7b,newline] oneLine _ _ rfl rfl
  exact ⟨_,rfl,⟨rfl,rfl⟩,(few (meets.imp fun _ _ fine => ⟨fine.1,fine.2.1⟩)).2,
    finite (meets.imp fun _ _ fine => ⟨fine.1,fine.2.2⟩)⟩

/-- An empty stdin ends at once, and then the router writes errors to stdout without end. -/
theorem empty_stdin_answered : lines [] = [] ∧ (∃ t, run (step {} unfinished) (start true [])
        [.handler .go,.handler .go,.receive,.router (.stdin .report),.router .drain] = some t ∧
      t.router.router.lines = [⟨0,some (errorResponse .null "invalid JSON: unexpected end of JSON input")⟩] ∧
      t.router.router.buffered = 0) ∧
    ∀ n, ∃ labels t, run (step {} unfinished) (start true []) labels = some t ∧ t.router.router.buffered = 0 ∧
      t.router.router.lines.length = n ∧ n ≤ labels.countP loop := by
  refine ⟨rfl,⟨_,rfl,rfl,rfl⟩,fun n => ?_⟩
  have ended : run (step {} unfinished) (start true []) [.handler .go,.handler .go] =
      some { start true [] with handler := .closed } := rfl
  have starved : Starved { start true [] with handler := .closed } := ⟨⟨rfl,rfl⟩,rfl,rfl⟩
  obtain ⟨labels,t,executed,printed,length,many⟩ := starved_endless {} (rfl : unfinished [] = _) starved n
  refine ⟨_,t,run_append.mpr ⟨_,ended,executed⟩,printed,length.trans (Nat.zero_add n),?_⟩
  rw [countP_append]
  exact Nat.le_add_left_of_le many

end McpBridge.StdinEnd
