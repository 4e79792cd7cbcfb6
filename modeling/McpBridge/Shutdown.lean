import McpBridge.RouterPanics

/-!
`Stop` against everything under way. It removes every entry of `pendingReqs` and closes the channel shown to it; a
goroutine that still waits on it may receive the `nil` before it sees the cancellation, and prints `null`.
-/
namespace McpBridge.MessageRouter
open Values Channels Pending Runs Option Router

/-- No line is `null`, no channel was closed twice and nothing was sent on a closed one. -/
def SafelyStopped (s : State) : Prop :=
  (∀ line ∈ s.router.lines, line.response ≠ none) ∧ ∀ cause, s.router.panic ≠ some (.channel cause)

/-- `Stop` takes only channels that it may close, and no goroutine receives from one closed and empty. -/
def Orderly (s : State) : Label → Prop
  | .stop .remove => Removable s
  | .gateway c .receive =>
    (s.router.pendingReqs.slots c).closed = true → (s.router.pendingReqs.slots c).value ≠ none
  | _ => True

/-! ### Unhashable keys are no channel panics -/

section shutdown
variable {cfg : Config} {s next : State}

variable {r : Router} {job : Job} {id : Any}

theorem Router.store_unhashable (unhashable : ¬ id.Hashable) : (r.store id).panic = some .unhashable := by
  have none : id.key? = none := not_isSome_iff_eq_none.mp unhashable
  simp [store,none,crash]

theorem Router.delete_unhashable (unhashable : ¬ id.Hashable) : (r.delete id).panic = some .unhashable := by
  have none : id.key? = none := not_isSome_iff_eq_none.mp unhashable
  simp [delete,none,crash]

theorem Router.processGatewayRequest_unhashable (unhashable : ¬ job.request.id.Hashable) :
    (r.processGatewayRequest job).panic = some .unhashable := by
  have none : job.request.id.key? = none := not_isSome_iff_eq_none.mp unhashable
  simp [processGatewayRequest,none,crash]

variable {router : Router}

theorem Stage.step_unhashable {stage : Stage} {move : Move} {progress : Progress}
    (hashes : stage.hashes move = true) (unhashable : ¬ job.request.id.Hashable)
    (taken : stage.step cfg job r move = some (progress,router)) : router.panic = some .unhashable := by
  cases Stage.step_cases taken with
  | stored mode => exact store_unhashable unhashable
  | removed | missing => exact delete_unhashable unhashable
  | handed => exact processGatewayRequest_unhashable unhashable
  | _ => cases hashes

variable {c : Nat} {g : Goroutine} {move : GatewayMove} {pc : GatewayPc}

theorem Goroutine.step_unhashable
    (hashes : g.hashes move = true) (unhashable : ¬ g.job.request.id.Hashable)
    (taken : g.step cfg c r move = some (pc,router)) : router.panic = some .unhashable := by
  cases Goroutine.step_cases taken with
  | removed | missing => exact delete_unhashable unhashable
  | delivered at_ | closed at_ | gaveUp at_ | overdue at_ | reported at_ => simp [Goroutine.hashes,at_] at hashes
  | _ => cases hashes

variable {label : Label}

/-- A step that uses an unhashable key panics for that reason. -/
theorem step_unhashable (unhashable : ¬ HashesWell s label) (taken : step cfg s label = some next) :
    next.router.panic = some .unhashable := by
  obtain ⟨id,uses,bad⟩ : ∃ id, hashed s label = some id ∧ ¬ id.Hashable := by
    simpa only [HashesWell,not_forall,exists_prop] using unhashable
  obtain ⟨_,way⟩ := taken_of_step taken
  cases way with
  | stdin moved =>
    cases stepStdin_cases moved with
    | @processed job stage move progress router at_ stepped =>
      simp only [hashed,at_,ite_none_right_eq_some,some.injEq] at uses
      obtain ⟨hashes,rfl⟩ := uses
      exact Stage.step_unhashable hashes bad stepped
    | _ => cases uses
  | @monitor move next moved =>
    cases stepMonitor_cases moved with
    | @processed job stage rest move progress router at_ stepped =>
      simp only [hashed,at_,ite_none_right_eq_some,some.injEq] at uses
      obtain ⟨hashes,rfl⟩ := uses
      exact Stage.step_unhashable hashes bad stepped
    | crashed panic answering => obtain rfl | rfl | rfl := answering <;> cases uses
    | _ => cases uses
  | @reader move next moved =>
    cases stepReader_cases moved with
    | routed at_ | unrouted at_ =>
      simp only [hashed,at_,some.injEq] at uses
      subst uses
      exact delete_unhashable bad
    | _ => cases uses
  | @gateway c move g pc router found moved =>
    simp only [hashed,found,bind_some,ite_none_right_eq_some,some.injEq] at uses
    obtain ⟨hashes,rfl⟩ := uses
    have crashed : router.panic = some .unhashable := Goroutine.step_unhashable hashes bad moved
    exact crashed
  | stop moved => cases uses
  | connection up => cases uses
  | expire index => cases uses
  | drain => cases uses

/-! ### Runs that are safe -/

/-- The router keeps its accounts, has written no `null` and is not about to. -/
structure Clean (s : State) : Prop where
  accounts : Accounts s
  lines : ∀ line ∈ s.router.lines, line.response ≠ none
  delivering : ∀ c g, s.router.goroutines c = some g → g.pc ≠ .deliver none

theorem Goroutine.step_delivers
    (orderly : Orderly s (.gateway c move)) (taken : g.step cfg c s.router move = some (pc,router)) : pc ≠ .deliver none := by
  cases Goroutine.step_cases taken with
  | @received response table at_ got =>
    intro same
    cases same
    obtain ⟨⟨x,slot⟩,received,pair⟩ := map_eq_some_iff.mp got
    cases pair
    exact orderly (Slot.closed_of_receive received) (Slot.value_of_receive received).1
  | @missing after at_ absent | @closed d after at_ => cases after <;> exact nofun
  | _ => exact nofun

theorem step_lines (clean : Clean s) (taken : step cfg s label = some next) :
    ∀ line ∈ next.router.lines, line.response ≠ none := by
  have kept : ∀ {router : Router}, router.lines = s.router.lines → ∀ line ∈ router.lines, line.response ≠ none := by
    intro router same
    rw [same]
    exact clean.lines
  have added : ∀ {router : Router} {index : Nat} {response : Response},
      router.lines = ⟨index,some response⟩ :: s.router.lines → ∀ line ∈ router.lines, line.response ≠ none := by
    intro router index response same line member
    rw [same] at member
    obtain rfl | old := List.mem_cons.mp member
    · exact nofun
    · exact clean.lines line old
  obtain ⟨_,way⟩ := taken_of_step taken
  cases way with
  | stdin moved =>
    cases stepStdin_cases moved with
    | processed at_ stepped =>
      obtain ⟨-,-,same | ⟨_,_,_,more⟩⟩ := Stage.step_outputs stepped
      · exact kept same
      · exact added more
    | reported at_ room => exact added rfl
    | _ => exact kept rfl
  | monitor moved =>
    cases stepMonitor_cases moved with
    | processed at_ stepped =>
      obtain ⟨-,-,same | ⟨_,_,_,more⟩⟩ := Stage.step_outputs stepped
      · exact kept same
      · exact added more
    | _ => exact kept rfl
  | reader moved => exact kept (stepReader_untouched moved).1.lines
  | stop moved => exact kept (stepStop_untouched moved).1.lines
  | @gateway c move g pc router found moved =>
    obtain ⟨_,same | ⟨x,at_,more⟩ | ⟨message,more⟩⟩ := Goroutine.step_lines moved
    · exact kept same
    · cases x with
      | none => exact absurd at_ (clean.delivering c g found)
      | some response => exact added more
    · exact added more
  | connection | expire | drain => exact clean.lines

theorem step_clean (clean : Clean s) (orderly : Orderly s label) (taken : step cfg s label = some next) :
    Clean next ∧ ∀ cause, next.router.panic ≠ some (.channel cause) := by
  have removable : label = .stop .remove → Removable s := by
    rintro rfl
    exact orderly
  obtain ⟨accounts,panics⟩ := step_accounts clean.accounts removable taken
  refine ⟨⟨accounts,step_lines clean taken,?_⟩,?_⟩
  · intro c g found
    obtain ⟨same,_⟩ | ⟨job,spawned⟩ | ⟨d,move,g',pc,router,rfl,before,moved,same⟩ := step_goroutines taken
    · exact clean.delivering c g (same ▸ found)
    · rw [spawned] at found
      obtain old | rfl := processGatewayRequest_goroutines found
      · exact clean.delivering c g old
      · exact nofun
    · rw [same] at found
      obtain ⟨rfl,rfl⟩ | ⟨_,old⟩ := goroutine_of_setPc (Goroutine.step_goroutines moved).2 found
      · exact Goroutine.step_delivers orderly moved
      · exact clean.delivering c g old
  · intro cause
    by_cases hashes : HashesWell s label
    · rw [panics.mpr hashes]
      exact nofun
    · rw [step_unhashable hashes taken]
      exact nofun

theorem run_drain {n : Nat} (running : s.router.panic = none) (full : s.router.buffered = n) :
    run (step cfg) s (List.replicate n .drain) = some { s with router := { s.router with buffered := 0 } } := by
  induction n generalizing s with
  | zero =>
    cases s with
    | mk router =>
      cases router
      cases full
      rfl
  | succ n ih =>
    have taken : step cfg s .drain = some { s with router := { s.router with buffered := n } } := by
      simp [step,running,full]
    rw [List.replicate_succ,run_cons_eq_some]
    exact ⟨_,taken,ih (by exact running) rfl⟩

theorem null_within_reach (running : s.router.panic = none)
    (found : s.router.goroutines c = some g) (at_ : g.pc = .deliver none) :
    ∃ more u, run (step cfg) s more = some u ∧ ∃ line ∈ u.router.lines, line.response = none := by
  have taken : step cfg { s with router := { s.router with buffered := 0 } } (.gateway c .go) =
      some { s with router := ({ s.router with buffered := 0 }.write g.job.index none).setPc c g .done } := by
    simp [step,running,State.stepGateway,found,Goroutine.step,at_,room,defaultChannelBufferSize]
  refine ⟨List.replicate s.router.buffered .drain ++ [.gateway c .go],_,
    run_append.mpr ⟨_,run_drain running rfl,run_cons_eq_some.mpr ⟨_,taken,rfl⟩⟩,⟨g.job.index,none⟩,?_,rfl⟩
  exact List.mem_cons_self

/-- A run of orderly steps is safe; from another step a `null` on stdout or a channel panic is within reach. -/
theorem orderly_stop_safe (cfg : Config) (up : Bool) (labels : List Label) (t : State)
    (executed : run (step cfg) (start up) labels = some t) (meets : Meets (step cfg) Orderly (start up) labels) :
    SafelyStopped t ∧ ∀ label next, step cfg t label = some next → ¬ Orderly t label →
        ∃ more u, run (step cfg) next more = some u ∧ ¬ SafelyStopped u := by
  have kept : Clean t ∧ ∀ cause, t.router.panic ≠ some (.channel cause) := by
    refine run_keeps (fun s label next now orderly taken => step_clean now.1 orderly taken) ?_ meets executed
    exact ⟨⟨start_accounts up,nofun,nofun⟩,nofun⟩
  refine ⟨⟨kept.1.lines,kept.2⟩,fun label next taken disorder => ?_⟩
  obtain ⟨running,way⟩ := taken_of_step taken
  cases label with
  | stop move =>
    cases move with
    | remove =>
      obtain ⟨more,u,cause,reached,panics⟩ := unremovable_panics running disorder taken
      exact ⟨more,u,reached,fun safe => safe.2 cause panics⟩
    | _ => exact absurd trivial disorder
  | gateway c move =>
    cases move with
    | receive =>
      obtain ⟨closed,empty⟩ : (t.router.pendingReqs.slots c).closed = true ∧
          (t.router.pendingReqs.slots c).value = none := by
        simpa only [Orderly,Classical.not_imp,not_not] using disorder
      cases way with
      | @gateway _ _ g pc router found moved =>
        cases Goroutine.step_cases moved with
        | @received response table at_ got =>
          obtain ⟨⟨x,slot⟩,received,pair⟩ := map_eq_some_iff.mp got
          cases pair
          obtain rfl : none = response := empty.symm.trans (Slot.value_of_receive received).1
          have reached : ∃ more u, run (step cfg) { t with
              router := setPc c g (.deliver none)
                { t.router with pendingReqs := t.router.pendingReqs.setSlot c slot } } more = some u ∧
              ∃ line ∈ u.router.lines, line.response = none :=
            null_within_reach running (Function.update_self ..) rfl
          obtain ⟨more,u,executed,line,member,null⟩ := reached
          exact ⟨more,u,executed,fun safe => safe.1 line member null⟩
    | _ => exact absurd trivial disorder
  | _ => exact absurd trivial disorder

end shutdown

/-- A request in flight, answered before `Stop` comes. -/
def answeredThenStopped : List Label :=
  gatewayRequest (.number 1) ++
    [.gateway 0 (.send none),.reader (.receive (some { id := .number 1 })),.reader .route,.reader .deliver,
     .gateway 0 .receive,.stop .cancel,.stop .finish]

theorem answeredThenStopped_safe : ∃ t, run (step {}) (start true) answeredThenStopped = some t ∧ SafelyStopped t := by
  have meets : Meets (step {}) Orderly (start true) answeredThenStopped := by
    iterate 7 refine (meets_cons rfl).mpr ⟨trivial,?_⟩
    refine (meets_cons rfl).mpr ⟨nofun,?_⟩
    refine (meets_cons rfl).mpr ⟨trivial,?_⟩
    exact (meets_cons rfl).mpr ⟨trivial,trivial⟩
  exact ⟨_,rfl,(orderly_stop_safe {} true answeredThenStopped _ rfl meets).1⟩

/-- `Stop` closes the channel of a request in flight, whose goroutine prints `null`. -/
theorem stop_prints_null : ∃ t, run (step {}) (start true) (gatewayRequest (.number 1) ++
        [.gateway 0 (.send none),.stop .cancel,.stop (.visit (.number 1)),.stop .remove,.stop .finish,.stop .close,
         .gateway 0 .receive,.gateway 0 .go]) = some t ∧ t.router.lines.map Line.response = [none] :=
  ⟨_,rfl,rfl⟩

end McpBridge.MessageRouter
