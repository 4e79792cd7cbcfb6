import McpBridge.Ledger

/-!
Requests in flight: those that were handed to the gateway client and whose goroutine waits for the response. No code of
the router reads `max_concurrent_requests`, so that only the client bounds their number, by waiting for answers.
-/
namespace McpBridge.MessageRouter
open Values Channels Pending Runs Router Finset

def GatewayPc.inFlight : GatewayPc → Bool
  | .wait => true
  | _ => false

def Router.isInFlight (r : Router) (c : Nat) : Bool := (r.goroutines c).any fun g => g.pc.inFlight

def State.inFlight (s : State) : Finset Nat :=
  (range s.router.pendingReqs.fresh).filter fun c => s.router.isInFlight c = true

/-- The messages read from stdin that have no line on stdout. -/
def State.unanswered (s : State) : Finset Nat :=
  (range s.inputs.length).filter fun i => s.router.written i = 0

/-- A message comes over stdin only while fewer than `m` have no answer, and the stdin loop gives none up that was begun. -/
def Patient (m : Nat) (s : State) : Label → Prop
  | .stdin (.read _) => s.unanswered.card < m
  | label => ∀ i, GivesUpUnbegun i s label

section
variable {cfg : Config} {s next : State} {label : Label} {m : Nat}

/-- Only the stdin loop reads messages, and no line is taken back. -/
theorem step_reads_writes (taken : step cfg s label = some next) : (next.inputs = s.inputs ∨
      ∃ data, label = .stdin (.read data) ∧ next.inputs = s.inputs ++ [data]) ∧ ∀ i, s.router.written i ≤ next.router.written i := by
  have same : ∀ {router : Router}, router.lines = s.router.lines → ∀ i, s.router.written i ≤ router.written i :=
    fun lines i => Nat.le_of_eq (by rw [written,written,lines])
  have more : ∀ {router : Router} {line}, router.lines = line :: s.router.lines → ∀ i, s.router.written i ≤ router.written i :=
    fun lines i => by
      rw [written,written,lines]
      exact List.count_le_count_cons
  have stage : ∀ {stage job move progress router}, Stage.step cfg job s.router stage move = some (progress,router) →
      ∀ i, s.router.written i ≤ router.written i := by
    intro stage job move progress router stepped
    obtain ⟨-,-,lines | ⟨_,_,_,lines⟩⟩ := Stage.step_outputs stepped
    · exact same lines
    · exact more lines
  cases (taken_of_step taken).2 with
  | stdin moved =>
    cases stepStdin_cases moved with
    | malformed | accepted => exact ⟨.inr ⟨_,rfl,rfl⟩,same rfl⟩
    | processed at_ stepped => exact ⟨.inl rfl,stage stepped⟩
    | reported at_ room => exact ⟨.inl rfl,more rfl⟩
    | _ => exact ⟨.inl rfl,same rfl⟩
  | monitor moved =>
    cases stepMonitor_cases moved with
    | processed at_ stepped => exact ⟨.inl rfl,stage stepped⟩
    | _ => exact ⟨.inl rfl,same rfl⟩
  | gateway found moved =>
    obtain ⟨-,lines | ⟨_,_,lines⟩ | ⟨_,lines⟩⟩ := Goroutine.step_lines moved
    · exact ⟨.inl rfl,same lines⟩
    · exact ⟨.inl rfl,more lines⟩
    · exact ⟨.inl rfl,more lines⟩
  | reader moved =>
    obtain ⟨untouched,-⟩ := stepReader_untouched moved
    exact ⟨.inl untouched.inputs,same untouched.lines⟩
  | stop moved =>
    obtain ⟨untouched,-⟩ := stepStop_untouched moved
    exact ⟨.inl untouched.inputs,same untouched.lines⟩
  | connection | expire | drain => exact ⟨.inl rfl,same rfl⟩

theorem Patient.unanswered_le (patient : Patient m s label) (few : s.unanswered.card ≤ m)
    (taken : step cfg s label = some next) : next.unanswered.card ≤ m := by
  obtain ⟨inputs,lines⟩ := step_reads_writes taken
  have before : ∀ i, next.router.written i = 0 → s.router.written i = 0 := fun i none =>
    Nat.le_zero.mp (none ▸ lines i)
  obtain inputs | ⟨data,rfl,inputs⟩ := inputs
  · refine Nat.le_trans (card_le_card fun i member => ?_) few
    simp only [State.unanswered,mem_filter,inputs] at member ⊢
    exact member.imp_right (before i)
  · have bound : next.unanswered ⊆ insert s.inputs.length s.unanswered := by
      intro i member
      simp only [State.unanswered,mem_insert,mem_filter,mem_range,inputs,List.length_append,
        List.length_singleton] at member ⊢
      have none := before i member.2
      omega
    have less : s.unanswered.card < m := patient
    exact Nat.le_trans (card_le_card bound) (Nat.le_trans (card_insert_le ..) less)

theorem Patient.gives (patient : Patient m s label) (i : Nat) : GivesUpUnbegun i s label := by
  unfold Patient at patient
  split at patient
  · trivial
  · exact patient i

/-- Requests in flight are for different messages, which have no answer. -/
theorem inFlight_le_unanswered (ledger : Ledger s) (single : ∀ i, Single i s) : s.inFlight.card ≤ s.unanswered.card := by
  let index (c : Nat) : Nat := (s.router.goroutines c).elim 0 fun g => g.job.index
  have due : ∀ c ∈ s.inFlight, c ∈ range s.router.pendingReqs.fresh ∧ s.router.dueAt (index c) c = 1 := by
    intro c member
    obtain ⟨listed,flies⟩ := mem_filter.mp member
    refine ⟨listed,?_⟩
    simp only [isInFlight,dueAt,index] at flies ⊢
    cases found : s.router.goroutines c with
    | none => simp [found] at flies
    | some g =>
      obtain ⟨job,pc⟩ := g
      cases pc <;> simp [found,GatewayPc.inFlight] at flies
      exact due_self _
  have balance : ∀ i, s.router.written i + s.router.delegated i ≤ s.balance i := fun i => by
    unfold State.balance settled
    omega
  refine card_le_card_of_injOn index (fun c member => ?_) fun c first d second same => ?_
  · obtain ⟨listed,mine⟩ := due c member
    have counted : s.router.dueAt (index c) c ≤ s.router.delegated (index c) :=
      single_le_sum (f := s.router.dueAt (index c)) (fun _ _ => Nat.zero_le _) listed
    have once : s.balance (index c) ≤ 1 := single _
    have sum := balance (index c)
    refine mem_filter.mpr ⟨mem_range.mpr (Nat.lt_of_not_le fun unread => ?_),by omega⟩
    have none := ledger.beyond _ unread
    omega
  · by_contra apart
    have both : s.router.dueAt (index c) c + s.router.dueAt (index c) d ≤ s.router.delegated (index c) := by
      rw [← sum_pair (f := s.router.dueAt (index c)) apart]
      refine sum_le_sum_of_subset fun e member => ?_
      rcases mem_insert.mp member with rfl | last
      · exact (due _ first).1
      · exact mem_singleton.mp last ▸ (due d second).1
    have once : s.balance (index c) ≤ 1 := single _
    have sum := balance (index c)
    rw [(due c first).2,show index c = index d from same,(due d second).2] at both
    rw [show index c = index d from same] at once sum
    omega

end

/-- In every run, never more than `m` requests are in flight if the client waits with a message while `m` have no answer. -/
theorem in_flight_bounded (cfg : Config) (up : Bool) (m : Nat) {labels : List Label}
    (patient : Meets (step cfg) (Patient m) (start up) labels) :
    Always (step cfg) (fun s => s.inFlight.card ≤ m) (start up) labels := by
  let Inv (s : State) : Prop := Ledger s ∧ (∀ i, Single i s) ∧ s.unanswered.card ≤ m
  have kept : ∀ s label next, Inv s → Patient m s label → step cfg s label = some next → Inv next := by
    rintro s label next ⟨ledger,single,few⟩ patient taken
    exact ⟨step_ledger ledger taken,fun i => (step_single_iff ledger (single i) taken).mpr (patient.gives i),
      patient.unanswered_le few taken⟩
  have first : Inv (start up) := ⟨start_ledger up,fun _ => Nat.zero_le 1,Nat.zero_le m⟩
  refine (always_of_keeps kept first patient).imp ?_
  rintro s ⟨ledger,single,few⟩
  exact Nat.le_trans (inFlight_le_unanswered ledger single) few

def sendsMessage (data : Data) (c : Nat) : List Label :=
  [.stdin (.read data),.stdin (.limit none),.stdin (.process .go),.gateway c (.send none)]

def answersMessage (id : Any) (c : Nat) : List Label :=
  [.reader (.receive (some { id })),.reader .route,.reader .deliver,.gateway c .receive,.gateway c .go]

/-- The second request comes when the first has its answer. -/
def oneAtATime : List Label :=
  sendsMessage (toolsList (.number 1)) 0 ++ answersMessage (.number 1) 0 ++ sendsMessage (toolsList (.number 2)) 1

theorem one_at_a_time_bounded : (run (step {}) (start true) oneAtATime).map (·.inFlight) = some {1} ∧
    Always (step {}) (fun s => s.inFlight.card ≤ 1) (start true) oneAtATime := by
  refine ⟨by decide,in_flight_bounded {} true 1 ?_⟩
  refine (meets_cons rfl).mpr ⟨Nat.zero_lt_one,?_⟩
  iterate 8 refine (meets_cons rfl).mpr ⟨fun _ => trivial,?_⟩
  refine (meets_cons rfl).mpr ⟨(by decide : _ < 1),?_⟩
  iterate 3 refine (meets_cons rfl).mpr ⟨fun _ => trivial,?_⟩
  trivial

/-- Two requests are in flight under a limit of one. -/
theorem limit_of_one_exceeded : ∃ t, run (step {}) (start true)
        (sendsMessage (toolsList (.number 1)) 0 ++ sendsMessage (toolsList (.number 2)) 1) = some t ∧
      1 < t.inFlight.card :=
  ⟨_,rfl,by decide⟩

end McpBridge.MessageRouter
