import McpBridge.Wakeups

/-!
The states of the connection: `maintainConnection`, the loss that `handleWSToStdout` finds, and `Stop`. Every `setState`
is a step of its own.
-/
namespace McpBridge.ConnectionStates
open Runs Wakeups

/-- Where `maintainConnection` stands, with its number of attempts. -/
inductive Loop where
  | top (attempts : Nat)
  | attempting (attempts : Nat)
  | connecting (attempts : Nat)
  | handling
  | pinging
  | leaving
  | returned
  deriving DecidableEq

/-- `handleWSToStdout` waits for the connection, receives, or has found it lost. -/
inductive Reader where
  | waiting
  | receiving
  | losing
  deriving DecidableEq

/-- `changes` are the changes of the state so far. -/
structure State where
  manager : ConnectionManager := {}
  cancelled : Bool := false
  loop : Loop := .top 0
  reader : Reader := .waiting
  changes : List (ConnectionState × ConnectionState) := []

inductive Label where
  | check
  | attempt
  | connect (ok : Bool)
  | handle
  | keepalive
  | ping (ok : Bool)
  | leave
  | ready
  | receive (lost : Bool)
  | handleConnectionLoss
  | cancel
  | stop

def maxAttempts : Nat := 10

def State.update (s : State) (manager : ConnectionManager) : State :=
  { s with
    manager := manager
    changes := if s.manager.state = manager.state then s.changes else (s.manager.state,manager.state) :: s.changes }

def State.setState (s : State) (state : ConnectionState) : State := s.update (s.manager.setState state)

def stepLoop (s : State) : Loop → Label → Option State
  | .top n,.check => some { s with loop := if s.cancelled then .leaving else .attempting n }
  | .attempting n,.attempt => some { s.setState .connecting with loop := .connecting n }
  | .connecting _,.connect true => some { s.setState .connected with loop := .handling }
  | .connecting n,.connect false =>
    some { s.setState .error with loop := if maxAttempts ≤ n then .returned else .top (n + 1) }
  | .handling,.handle => if s.cancelled ∨ s.manager.state = .reconnecting then some { s with loop := .top 0 } else none
  | .handling,.keepalive => some { s with loop := if s.manager.state = .connected then .pinging else .top 0 }
  | .pinging,.ping true => some { s with loop := .handling }
  | .pinging,.ping false => some { s.setState .reconnecting with loop := .top 0 }
  | .leaving,.leave => some { s.setState .shutdown with loop := .returned }
  | _,_ => none

/-- One step of a goroutine of the manager. -/
def step (s : State) (label : Label) : Option State :=
  match s.reader,label with
  | .waiting,.ready => if s.manager.state = .connected then some { s with reader := .receiving } else none
  | .receiving,.receive lost => some { s with reader := if lost then .losing else .waiting }
  | .losing,.handleConnectionLoss => some { s.setState .reconnecting with reader := .waiting }
  | _,.cancel => some { s with cancelled := true }
  | _,.stop => if s.cancelled then some (s.update s.manager.stop) else none
  | _,label => stepLoop s s.loop label

def diagram : List (ConnectionState × ConnectionState) :=
  [(.init,.connecting),(.connecting,.connected),(.connecting,.reconnecting),(.connected,.reconnecting),
    (.reconnecting,.connected),(.reconnecting,.error),(.connected,.shutdown),(.reconnecting,.shutdown),(.error,.shutdown)]

/-- Every change was along an edge, and what `Stop` has set stays. -/
structure Conforms (s : State) : Prop where
  edges : ∀ change ∈ s.changes, change ∈ diagram
  final : s.manager.channelClosed = true → s.manager.state = .shutdown

/-- The one attempt to connect succeeds; `Stop` comes only after that, and no loss is handled afterwards. -/
def Orderly (s : State) : Label → Prop
  | .attempt => s.manager.state = .init
  | .connect ok => ok = true
  | .ping ok => ok = true ∨ s.cancelled = false
  | .handleConnectionLoss => s.cancelled = false
  | .cancel => s.manager.state = .connected ∨ s.manager.state = .reconnecting
  | _ => True

def Settled (state : ConnectionState) : Prop := state = .connected ∨ state = .reconnecting ∨ state = .shutdown

structure Inv (s : State) : Prop extends Conforms s where
  ended : s.manager.state = .shutdown → s.cancelled = true
  settled : s.cancelled = true ∨ s.reader ≠ .waiting ∨ s.loop = .handling ∨ s.loop = .pinging → Settled s.manager.state
  connecting : ∀ n, s.loop = .connecting n → s.manager.state = .connecting
  leaving : s.loop = .leaving → s.cancelled = true

variable {s next : State} {state : ConnectionState} {label : Label}

theorem Conforms.update {manager : ConnectionManager} (conforms : Conforms s)
    (edge : s.manager.state = manager.state ∨ (s.manager.state,manager.state) ∈ diagram)
    (closes : manager.channelClosed = true → s.manager.channelClosed = true ∨ manager.state = .shutdown) :
    Conforms (s.update manager) := by
  refine ⟨?_,fun closed => ?_⟩
  · unfold State.update
    split_ifs with same
    · exact conforms.edges
    · exact List.forall_mem_cons.mpr ⟨edge.resolve_left same,conforms.edges⟩
  · show manager.state = .shutdown
    rcases closes closed with before | now
    · rw [conforms.final before] at edge
      simpa [diagram,eq_comm] using edge
    · exact now

theorem Inv.setState {loop : Loop} {reader : Reader} (inv : Inv s)
    (edge : s.manager.state = state ∨ (s.manager.state,state) ∈ diagram) (ended : state = .shutdown → s.cancelled = true)
    (settled : s.cancelled = true ∨ reader ≠ .waiting ∨ loop = .handling ∨ loop = .pinging → Settled state)
    (connecting : ∀ n, loop = .connecting n → state = .connecting) (leaving : loop = .leaving → s.cancelled = true) :
    Inv { s.setState state with loop := loop, reader := reader } := by
  have now := ConnectionManager.setState_state state s.manager
  have moved : Conforms (s.setState state) := by
    refine inv.toConforms.update (by rwa [now]) fun closed => .inl ?_
    unfold ConnectionManager.setState at closed
    split at closed <;> exact closed
  refine ⟨⟨moved.edges,moved.final⟩,?_,?_,?_,leaving⟩ <;> simp only [State.setState,State.update,now] <;> assumption

theorem Settled.loses (settled : Settled state) (running : state ≠ .shutdown) :
    state = .reconnecting ∨ (state,.reconnecting) ∈ diagram := by
  rcases settled with rfl | rfl | rfl
  · decide
  · decide
  · contradiction

theorem Settled.ends (settled : Settled state) : state = .shutdown ∨ (state,.shutdown) ∈ diagram := by
  rcases settled with rfl | rfl | rfl <;> decide

theorem Inv.unconnecting (inv : Inv s) (settled : Settled s.manager.state) (n : Nat) : s.loop ≠ .connecting n := by
  intro here
  simp [inv.connecting n here,Settled] at settled

theorem stepLoop_inv (inv : Inv s) (fine : Orderly s label) (taken : stepLoop s s.loop label = some next) : Inv next := by
  have ⟨conforms,ended,settled,connecting,leaving⟩ := inv
  generalize here : s.loop = loop at taken
  revert taken
  fun_cases stepLoop s loop label <;> rintro ⟨⟩
  case case2 => refine inv.setState (.inr ?_) ?_ ?_ ?_ ?_ <;> simp_all [Orderly,Settled,diagram,State.setState,State.update]
  case case3 n => refine inv.setState (.inr ?_) ?_ ?_ ?_ ?_ <;> simp_all [Settled,diagram]
  case case4 => cases fine
  case case9 =>
    have running : s.manager.state ≠ .shutdown := fun down => by simp_all [Orderly]
    refine inv.setState ((settled (by simp [here])).loses running) ?_ ?_ ?_ ?_ <;> simp_all [Orderly,Settled]
  case case10 =>
    refine inv.setState (settled (.inl (leaving here))).ends ?_ ?_ ?_ ?_ <;> simp_all [Settled]
  all_goals
    refine ⟨⟨conforms.edges,conforms.final⟩,ended,?_,?_,?_⟩
    all_goals try split
    all_goals simp_all

theorem step_inv (inv : Inv s) (fine : Orderly s label) (taken : step s label = some next) : Inv next := by
  have ⟨conforms,ended,settled,connecting,leaving⟩ := inv
  revert taken
  fun_cases step s label
  case case8 => exact stepLoop_inv inv fine
  all_goals rintro ⟨⟩
  case case4 here =>
    have was : Settled s.manager.state := settled (by simp [here])
    have running : s.manager.state ≠ .shutdown := fun down => by simp_all [Orderly]
    exact inv.setState (was.loses running) nofun (fun _ => .inr (.inl rfl))
      (fun n at_ => absurd at_ (inv.unconnecting was n)) leaving
  case case5 =>
    exact ⟨⟨conforms.edges,conforms.final⟩,fun _ => rfl,fun _ => fine.imp_right .inl,connecting,fun _ => rfl⟩
  case case6 cancelled =>
    have was := settled (.inl cancelled)
    have down : s.manager.stop.state = .shutdown := by
      unfold ConnectionManager.stop
      split
      next closed => exact conforms.final closed
      next => rfl
    exact ⟨conforms.update (down ▸ was.ends) fun _ => .inr down,fun _ => cancelled,fun _ => .inr (.inr down),
      fun n at_ => absurd at_ (inv.unconnecting was n),leaving⟩
  all_goals refine ⟨⟨conforms.edges,conforms.final⟩,ended,?_,connecting,leaving⟩
  all_goals simp_all [Settled]

/-- In every run with one attempt to connect, which succeeds, that handles no loss while being stopped, every change is
    along an edge of the diagram and `Shutdown` stays. -/
theorem states_conform (labels : List Label) (meets : Meets step Orderly {} labels) : Always step Conforms {} labels := by
  have start : Inv {} := ⟨⟨nofun,nofun⟩,nofun,by simp,nofun,nofun⟩
  exact (always_of_keeps (fun _ _ _ inv fine taken => step_inv inv fine taken) start meets).imp fun _ inv => inv.toConforms

theorem states_conform_once : Always step Conforms {} [.check,.attempt,.connect true,.cancel,.stop] := by
  refine states_conform _ ((meets_cons rfl).mpr ⟨trivial,?_⟩)
  iterate 2 refine (meets_cons rfl).mpr ⟨rfl,?_⟩
  exact (meets_cons rfl).mpr ⟨.inl rfl,trivial,fun _ _ => trivial⟩

/-- A first attempt that fails, and a loss that is handled after `Stop`. -/
theorem states_stray : ¬ Always step Conforms {} [.check,.attempt,.connect false] ∧
      ¬ Always step Conforms {} [.check,.attempt,.connect true,.ready,.receive true,.cancel,.stop,.handleConnectionLoss] :=
  ⟨fun always => absurd ((always.last rfl).edges (.connecting,.error) (.head _)) (by decide),
    fun always => absurd ((always.last rfl).final rfl) (by decide)⟩

end McpBridge.ConnectionStates
