import McpBridge.RouterDesk

/-!
The response channel of a goroutine only carries responses for the identifier under which it was stored, and is empty
and open until the reader has taken it out of the map.
-/
namespace McpBridge.MessageRouter
open Values Channels Pending Runs Desks List

/-- The identifiers of the requests are hashable and pairwise distinct. -/
structure Proper (inputs : List Data) : Prop where
  hashable : ∀ (i : Nat) data req, inputs[i]? = some data → data.decode = .ok req → req.id.Hashable
  distinct : ∀ (i j : Nat) data data' req req', inputs[i]? = some data → inputs[j]? = some data' →
    data.decode = .ok req → data'.decode = .ok req' → req.id = req'.id → i = j

variable {job : Job}

theorem Proper.index_eq {inputs : List Data} (proper : Proper inputs) {other : Job} {k : Key}
    (listed : job.Listed inputs) (listed' : other.Listed inputs) (key : job.request.id.key? = some k)
    (key' : other.request.id.key? = some k) : job.index = other.index :=
  proper.distinct _ _ _ _ _ _ listed.1 listed'.1 listed.2 listed'.2 (Any.eq_of_key? key key')

def GatewayPc.waits : GatewayPc → Bool
  | .send => true
  | .wait => true
  | _ => false

def Router.Answers (r : Router) (req : Request) (response : Response) : Prop :=
  response.id = req.id ∧ response ∈ r.received

/-- The channel of a goroutine is in the map under its request's identifier only, and carries responses for it only;
    nobody closes it empty while the goroutine waits. -/
structure Correlated (s : State) : Prop where
  routing : ∀ response, s.reader = .routing response → response ∈ s.router.received
  entry : ∀ c g k, s.router.goroutines c = some g → s.router.pendingReqs.entries k = some c →
    g.job.request.id.key? = some k
  sending : ∀ c g response, s.router.goroutines c = some g → s.reader = .sending c response →
    s.router.Answers g.job.request response
  value : ∀ c g response, s.router.goroutines c = some g → (s.router.pendingReqs.slots c).value = some response →
    s.router.Answers g.job.request response
  pristine : ∀ c g, s.router.goroutines c = some g → g.pc.waits = true → (s.router.pendingReqs.slots c).value = none →
    (s.router.pendingReqs.slots c).closed = false ∧ ∀ h, c ∈ s.held h → ∃ response, s.reader = .sending c response
  delivering : ∀ c g x, s.router.goroutines c = some g → g.pc = .deliver x →
    ∃ response, x = some response ∧ s.router.Answers g.job.request response

open Router

section correlation
variable {cfg : Config} {s next : State} {response : Response}

theorem Router.Answers.mono {r next : Router} {req : Request} (answers : r.Answers req response)
    (received : ∀ x ∈ r.received, x ∈ next.received) : next.Answers req response :=
  ⟨answers.1,received _ answers.2⟩

variable {c : Nat} {g : Goroutine} {pc : GatewayPc}

/-- The channel is open, and only the reader has it, to send to it. -/
def Pristine (s : State) (c : Nat) : Prop :=
  (s.router.pendingReqs.slots c).closed = false ∧ ∀ h, c ∈ s.held h → ∃ response, s.reader = .sending c response

theorem Pristine.mono (closed : (next.router.pendingReqs.slots c).closed = (s.router.pendingReqs.slots c).closed)
    (held : ∀ h, c ∈ next.held h → c ∈ s.held h) (reader : next.reader = s.reader) (pristine : Pristine s c) :
    Pristine next c := by
  rw [Pristine,closed,reader]
  exact ⟨pristine.1,fun h member => pristine.2 h (held h member)⟩

/-- What `Correlated` says of one goroutine. -/
structure Own (s : State) (c : Nat) (g : Goroutine) : Prop where
  entry : ∀ k, s.router.pendingReqs.entries k = some c → g.job.request.id.key? = some k
  sending : ∀ response, s.reader = .sending c response → s.router.Answers g.job.request response
  value : ∀ response, (s.router.pendingReqs.slots c).value = some response → s.router.Answers g.job.request response
  pristine : g.pc.waits = true → (s.router.pendingReqs.slots c).value = none → Pristine s c
  delivering : ∀ x, g.pc = .deliver x → ∃ response, x = some response ∧ s.router.Answers g.job.request response

theorem Correlated.own (correlated : Correlated s) (found : s.router.goroutines c = some g) : Own s c g :=
  ⟨fun k => correlated.entry c g k found,fun x => correlated.sending c g x found,fun x => correlated.value c g x found,
    correlated.pristine c g found,fun x => correlated.delivering c g x found⟩

theorem correlated_of_own (routing : ∀ response, s.reader = .routing response → response ∈ s.router.received)
    (own : ∀ c g, s.router.goroutines c = some g → Own s c g) : Correlated s :=
  ⟨routing,fun c g k found => (own c g found).entry k,fun c g x found => (own c g found).sending x,
    fun c g x found => (own c g found).value x,fun c g found => (own c g found).pristine,
    fun c g x found => (own c g found).delivering x⟩

/-- A step that leaves the value in the channel of the goroutine. -/
theorem Own.carry {g' : Goroutine} (own : Own s c g) (job : g'.job = g.job)
    (entries : ∀ k, next.router.pendingReqs.entries k = some c → s.router.pendingReqs.entries k = some c)
    (value : (next.router.pendingReqs.slots c).value = (s.router.pendingReqs.slots c).value)
    (sending : ∀ x, next.reader = .sending c x → s.reader = .sending c x ∨ s.router.Answers g.job.request x)
    (pristine : g'.pc.waits = true → (s.router.pendingReqs.slots c).value = none →
      g.pc.waits = true ∧ (Pristine s c → Pristine next c))
    (delivers : ∀ x, g'.pc = .deliver x → g.pc = .deliver x)
    (received : ∀ x ∈ s.router.received, x ∈ next.router.received) : Own next c g' := by
  refine ⟨fun k listed => ?_,fun x at_ => ?_,fun x held => ?_,fun waits empty => ?_,fun x at_ => ?_⟩
  · exact job ▸ own.entry k (entries k listed)
  · exact job ▸ ((sending x at_).elim (own.sending x) id).mono received
  · exact job ▸ (own.value x (value ▸ held)).mono received
  · obtain ⟨waited,kept⟩ := pristine waits (value ▸ empty)
    exact kept (own.pristine waited (value ▸ empty))
  · obtain ⟨response,some,answers⟩ := own.delivering x (delivers x at_)
    exact ⟨response,some,job ▸ answers.mono received⟩

/-- A step of the stdin loop or of a goroutine delivers nothing and closes no channel that is waited for. -/
theorem Correlated.keep (correlated : Correlated s) (spawned : s.router.Spawned)
    (later : Later s.router.pendingReqs next.router.pendingReqs)
    (values : ∀ c, (next.router.pendingReqs.slots c).value = (s.router.pendingReqs.slots c).value)
    (goroutines : ∀ c g, next.router.goroutines c = some g → ∃ old, s.router.goroutines c = some old ∧
      old.job = g.job ∧ (g.pc.waits = true → old.pc.waits = true) ∧ ∀ x, g.pc = .deliver x → old.pc = .deliver x)
    (untouched : ∀ c g, next.router.goroutines c = some g → g.pc.waits = true →
      (s.router.pendingReqs.slots c).value = none →
      (next.router.pendingReqs.slots c).closed = (s.router.pendingReqs.slots c).closed ∧
        ∀ h, c ∈ next.held h → c ∈ s.held h)
    (reader : next.reader = s.reader) (received : ∀ x ∈ s.router.received, x ∈ next.router.received) :
    Correlated next := by
  refine correlated_of_own (fun x at_ => received _ (correlated.routing x (reader ▸ at_))) fun c g found => ?_
  obtain ⟨old,before,same,waited,delivers⟩ := goroutines c g found
  refine (correlated.own before).carry same.symm (fun k => later.old (spawned c old before)) (values c)
    (fun x at_ => .inl (reader ▸ at_)) (fun waits empty => ?_) delivers received
  obtain ⟨closed,held⟩ := untouched c g found waits empty
  exact ⟨waited waits,Pristine.mono closed held reader⟩

theorem Correlated.plain (correlated : Correlated s) (spawned : s.router.Spawned)
    (table : next.router.pendingReqs = s.router.pendingReqs)
    (goroutines : next.router.goroutines = s.router.goroutines) (held : ∀ h, ∀ c ∈ next.held h, c ∈ s.held h)
    (reader : next.reader = s.reader) (received : ∀ x ∈ s.router.received, x ∈ next.router.received) :
    Correlated next :=
  correlated.keep spawned (table ▸ .refl _) (fun c => by rw [table])
    (fun c g found => ⟨g,goroutines ▸ found,rfl,id,fun _ same => same⟩)
    (fun c g found waits empty => ⟨by rw [table],fun h member => held h c member⟩) reader received

theorem stdin_load_not_waiting {b : Bool} (ground : Ground s) (sound : Sound s.desk)
    (proper : Proper s.inputs) (correlated : Correlated s) (listed : job.Listed s.inputs)
    (task : s.stdin.task = some (job.index,b)) (loaded : s.router.load job.request.id = some c)
    (found : s.router.goroutines c = some g) : g.pc.live = false := by
  obtain ⟨k,key,entry,_⟩ := load_eq_some loaded
  have same := proper.index_eq listed (ground.goroutines c g found) key (correlated.entry c g k found entry)
  cases live : g.pc.live with
  | false => rfl
  | true =>
    have worker : s.desk.workers c = some (job.index,true) := by
      simp [State.desk,found,Goroutine.task,live,same]
    have bound := sound.workers c _ _ worker
    exact absurd task ((Fate.of_worker_owes (sound.fate _ bound) worker).2.1 b)

theorem GatewayPc.live_of_waits (waits : pc.waits = true) : pc.live = true := by
  cases pc <;> first | rfl | cases waits

theorem held_not_pristine {h : Holder} (accounts : Accounts s) (correlated : Correlated s)
    (other : h ≠ .reader) (member : c ∈ s.held h) (found : s.router.goroutines c = some g) (waits : g.pc.waits = true)
    (empty : (s.router.pendingReqs.slots c).value = none) : False := by
  obtain ⟨response,at_⟩ := (correlated.pristine c g found waits empty).2 h member
  refine other (accounts.table.alone h .reader c member ?_)
  simp only [State.held,at_,Reader.held]
  exact mem_singleton_self c

theorem Correlated.spawn {stdin : Stdin} (correlated : Correlated s) (accounts : Accounts s) (free : stdin.held = []) :
    Correlated { s with stdin := stdin, router := s.router.processGatewayRequest job } := by
  cases key : job.request.id.key? with
  | none =>
    have crashed : s.router.processGatewayRequest job = s.router.crash .unhashable := by
      simp [processGatewayRequest,key]
    rw [crashed]
    refine correlated.plain accounts.spawned rfl rfl (fun h c member => ?_) rfl (fun _ member => member)
    cases h with
    | stdin => simp only [State.held,free,not_mem_nil] at member
    | monitor | reader | stop | gateway d => exact member
  | some k =>
    have later := processGatewayRequest_later (r := s.router) job
    have table : (s.router.processGatewayRequest job).pendingReqs = s.router.pendingReqs.store k := by
      simp [processGatewayRequest,key]
    have goroutines : (s.router.processGatewayRequest job).goroutines =
        Function.update s.router.goroutines s.router.pendingReqs.fresh (some ⟨job,.send⟩) := by
      simp [processGatewayRequest,key]
    have received := processGatewayRequest_received (r := s.router) job
    have heldBy : (s.router.processGatewayRequest job).heldBy = s.router.heldBy :=
      (processGatewayRequest_spawned accounts.spawned).2
    have held : ∀ h, ∀ c ∈ State.held { s with stdin := stdin, router := s.router.processGatewayRequest job } h,
        c ∈ s.held h := by
      intro h c member
      cases h with
      | stdin => simp only [State.held,free,not_mem_nil] at member
      | monitor | reader | stop => exact member
      | gateway d => simpa only [State.held,heldBy] using member
    have new : ∀ h, s.router.pendingReqs.fresh ∉ s.held h :=
      fun h member => Nat.lt_irrefl _ (accounts.table.heldMade h _ member)
    have goroutine_of : ∀ c g, (s.router.processGatewayRequest job).goroutines c = some g →
        (c = s.router.pendingReqs.fresh ∧ g = ⟨job,.send⟩) ∨ s.router.goroutines c = some g := by
      intro c g found
      rw [goroutines,Function.update_apply] at found
      split at found
      · exact .inl ⟨‹_›,(Option.some.inj found).symm⟩
      · exact .inr found
    refine correlated_of_own (fun response at_ => received ▸ correlated.routing response at_) fun c g found => ?_
    rcases goroutine_of c g found with ⟨rfl,rfl⟩ | old
    · have empty := accounts.table.beyond _ (Nat.le_refl s.router.pendingReqs.fresh)
      refine ⟨fun k' listed => ?_,fun x at_ => ?_,fun x value => ?_,fun _ _ => ⟨?_,fun h member => ?_⟩,by rintro _ ⟨⟩⟩
      · simp only [table,Table.store_entries] at listed
        split at listed
        next same => rw [same]; exact key
        next => exact absurd (accounts.table.made _ _ listed) (Nat.lt_irrefl _)
      · refine absurd ?_ (new .reader)
        simp only [State.held,show s.reader = _ from at_,Reader.held]
        exact mem_singleton_self _
      · simp only [table,Table.store_slots,empty] at value
        cases value
      · simp [table,Table.store_slots,empty]
      · exact absurd (held h _ member) (new h)
    · refine (correlated.own old).carry rfl (fun _ => later.old (accounts.spawned c g old)) ?_ (fun _ => .inl)
        (fun waits _ => ⟨waits,Pristine.mono ?_ (fun h => held h c) rfl⟩) (fun _ => id) (fun _ => by rw [received]; exact id)
      all_goals simp [table,Table.store_slots]

/-- The stdin loop spares the channels that are waited for. -/
theorem Correlated.moveStdin {stdin : Stdin} {router : Router} (correlated : Correlated s) (spawned : s.router.Spawned)
    (later : Later s.router.pendingReqs router.pendingReqs) (goroutines : router.goroutines = s.router.goroutines)
    (values : ∀ c, (router.pendingReqs.slots c).value = (s.router.pendingReqs.slots c).value)
    (spared : ∀ c g, s.router.goroutines c = some g → g.pc.waits = true → (s.router.pendingReqs.slots c).value = none →
      (router.pendingReqs.slots c).closed = (s.router.pendingReqs.slots c).closed ∧ c ∉ stdin.held)
    (received : ∀ x ∈ s.router.received, x ∈ router.received) :
    Correlated { s with stdin := stdin, router := router } := by
  refine correlated.keep spawned later values (fun c g found => ⟨g,goroutines ▸ found,rfl,id,fun _ same => same⟩)
    (fun c g found waits empty => ?_) rfl received
  obtain ⟨closed,unheld⟩ := spared c g (goroutines ▸ found) waits empty
  refine ⟨closed,fun h member => ?_⟩
  cases h with
  | stdin => exact absurd member unheld
  | monitor | reader | stop => exact member
  | gateway d => simpa only [State.held,heldBy,goroutines] using member

section
variable (accounts : Accounts s) (ground : Ground s) (sound : Sound s.desk) (proper : Proper s.inputs) (correlated : Correlated s)
include accounts ground sound proper correlated

theorem stage_correlated {stage : Stage} {move : Move} {progress : Progress} {router : Router}
    (at_ : s.stdin = .processing job stage) (moved : stage.step cfg job s.router move = some (progress,router)) :
    Correlated { s with stdin := .resume job progress, router := router } := by
  have listed := ground.toKnown.stdin job (by rw [at_]; rfl)
  have task : s.stdin.task = some (job.index,stage.owes) := by rw [at_]; rfl
  obtain ⟨later,_⟩ := Stage.step_goroutines moved
  have spare := @Correlated.moveStdin s (.resume job progress) router correlated accounts.spawned later
  rw [Stdin.resume_held] at spare
  have same_table : router.pendingReqs = s.router.pendingReqs → progress.held = [] → ∀ c g,
      s.router.goroutines c = some g → g.pc.waits = true → (s.router.pendingReqs.slots c).value = none →
      (router.pendingReqs.slots c).closed = (s.router.pendingReqs.slots c).closed ∧ c ∉ progress.held := by
    intro table free c g _ _ _
    rw [table,free]
    exact ⟨rfl,not_mem_nil⟩
  cases Stage.step_cases moved with
  | stored mode =>
    have same := store_same (r := s.router) job.request.id
    refine spare same.goroutines (fun c => by rw [store_slots]) (fun c g _ _ _ => ?_)
      (by rw [same.received]; exact fun _ => id)
    exact ⟨by rw [store_slots],not_mem_nil⟩
  | answered mode outcome =>
    have free := afterAnswer_held mode outcome
    cases outcome with
    | noClient | failed => exact spare rfl (fun _ => rfl) (same_table rfl free) (fun _ => id)
    | response response =>
      exact spare rfl (fun _ => rfl) (same_table rfl free) (fun _ member => mem_cons_of_mem _ member)
  | responded mode | interrupted mode =>
    exact spare rfl (fun _ => rfl) (same_table rfl (afterRespond_held mode _)) (fun _ => id)
  | @removed mode after c loaded =>
    have same := delete_same (r := s.router) job.request.id
    refine spare same.goroutines (fun d => by rw [delete_slots]) (fun d g found waits _ => ?_)
      (by rw [same.received]; exact fun _ => id)
    refine ⟨by rw [delete_slots],fun member => ?_⟩
    cases mem_singleton.mp member
    have dead := stdin_load_not_waiting ground sound proper correlated listed task loaded found
    rw [GatewayPc.live_of_waits waits] at dead
    cases dead
  | missing mode after absent =>
    have same := delete_same (r := s.router) job.request.id
    exact spare same.goroutines (fun d => by rw [delete_slots])
      (same_table (delete_of_load_eq_none absent) (afterCleanup_held cfg mode after))
      (by rw [same.received]; exact fun _ => id)
  | closed mode c after =>
    have same := close_same (r := s.router) c
    have member : c ∈ s.held .stdin := by
      simp only [State.held,at_,Stdin.held,Stage.held]
      exact mem_singleton_self c
    refine spare same.goroutines (fun d => close_value c d) (fun d g found waits empty => ?_)
      (by rw [same.received]; exact fun _ => id)
    have other : d ≠ c := by
      rintro rfl
      exact held_not_pristine accounts correlated (h := .stdin) (by simp) member found waits empty
    exact ⟨by rw [close_slots_of_ne other],by rw [afterCleanup_held]; exact not_mem_nil⟩
  | retried | abandoned => exact spare rfl (fun _ => rfl) (same_table rfl rfl) (fun _ => id)
  | handed => exact correlated.spawn accounts rfl

theorem stepStdin_correlated {move : StdinMove} (taken : s.stepStdin cfg move = some next) : Correlated next := by
  -- All but the steps of a request leave the map alone, and nothing held.
  have free : ∀ {stdin : Stdin} {inputs : List Data}, stdin.held = [] →
      Correlated { s with stdin := stdin, inputs := inputs } := by
    intro stdin inputs free
    refine correlated.plain accounts.spawned rfl rfl (fun h c member => ?_) rfl (fun _ => id)
    cases h with
    | stdin => simp only [State.held,free,not_mem_nil] at member
    | monitor | reader | stop | gateway d => exact member
  cases ground.stdin_taken taken with
  | malformed | accepted | limited => exact free rfl
  | begun => exact free (by rw [Stdin.resume_held,processStdinMessageDirect_held])
  | processed at_ moved => exact stage_correlated accounts ground sound proper correlated at_ moved
  | reported =>
    have idle : Correlated { s with stdin := .idle } := free rfl
    exact idle.plain accounts.spawned rfl rfl (fun _ _ => id) rfl (fun _ => id)

end

theorem gateway_load_not_waiting {d : Nat} {other : Goroutine} (ground : Ground s) (sound : Sound s.desk)
    (proper : Proper s.inputs) (correlated : Correlated s) (found : s.router.goroutines c = some g)
    (loaded : s.router.load g.job.request.id = some d) (found' : s.router.goroutines d = some other)
    (live : other.pc.live = true) : d = c := by
  obtain ⟨k,key,entry,_⟩ := load_eq_some loaded
  have same := proper.index_eq (ground.goroutines c g found) (ground.goroutines d other found') key
    (correlated.entry d other k found' entry)
  have worker : s.desk.workers d = some (g.job.index,true) := by
    simp [State.desk,found',Goroutine.task,live,same]
  have bound := sound.workers d _ _ worker
  refine ((Fate.of_worker_owes (sound.fate _ bound) worker).1 c g.pc.live ?_).symm
  simp [State.desk,found,Goroutine.task]

variable {x : Option Response}

theorem receive_answers {table : Table Key Response}
    (correlated : Correlated s) (found : s.router.goroutines c = some g) (waits : g.pc.waits = true)
    (received : s.router.pendingReqs.receive c = some (x,table)) :
    ∃ response, x = some response ∧ s.router.Answers g.job.request response := by
  obtain ⟨value,_⟩ := Table.receive_eq received
  cases x with
  | some response => exact ⟨response,rfl,correlated.value c g response found value⟩
  | none =>
    -- An empty channel yields something only when it is closed, and nobody closes it while it is waited for.
    obtain ⟨stays,_⟩ := correlated.pristine c g found waits value
    simp [Table.receive,Slot.receive,value,stays] at received

theorem Correlated.receive {c : Nat} {g : Goroutine} {table : Table Key Response}
    (correlated : Correlated s) (found : s.router.goroutines c = some g) (waits : g.pc.waits = true)
    (received : s.router.pendingReqs.receive c = some (x,table)) :
    Correlated { s with router := setPc c g (.deliver x) { s.router with pendingReqs := table } } := by
  obtain ⟨response,some,answers⟩ := receive_answers correlated found waits received
  have emptied := (Table.receive_eq received).2
  have goroutine_of : ∀ d g', (setPc c g (.deliver x) { s.router with pendingReqs := table }).goroutines d =
      Option.some g' → (d = c ∧ g' = { g with pc := .deliver x }) ∨ (d ≠ c ∧ s.router.goroutines d = Option.some g') :=
    fun _ _ => goroutine_of_setPc rfl
  have slots : ∀ d, d ≠ c → table.slots d = s.router.pendingReqs.slots d := by
    intro d other
    rw [emptied,Table.setSlot_slots,if_neg other]
  have held : ∀ h, ∀ d ∈ State.held { s with
      router := setPc c g (.deliver x) { s.router with pendingReqs := table } } h, d ∈ s.held h := by
    intro h d member
    cases h with
    | stdin | monitor | reader | stop => exact member
    | gateway e =>
      simp only [State.held,heldBy,setPc,Function.update_apply] at member ⊢
      split at member
      · cases member
      · exact member
  have entries (k : Key) : table.entries k = s.router.pendingReqs.entries k := by rw [emptied,Table.setSlot_entries]
  have own := correlated.own found
  refine correlated_of_own correlated.routing fun d g' listed => ?_
  rcases goroutine_of d g' listed with ⟨rfl,rfl⟩ | ⟨other,old⟩
  · refine ⟨fun k entry => own.entry k (entries k ▸ entry),own.sending,fun y value => ?_,(by rintro ⟨⟩),?_⟩
    · simp only [setPc,emptied,Table.setSlot_slots,if_true] at value
      cases value
    · rintro y ⟨⟩
      exact ⟨response,some,answers⟩
  · have same := slots d other
    exact (correlated.own old).carry rfl (fun k entry => entries k ▸ entry) (congrArg Slot.value same) (fun _ => .inl)
      (fun waits _ => ⟨waits,Pristine.mono (congrArg Slot.closed same) (fun h => held h d) rfl⟩) (fun _ => id) (fun _ => id)

/-- A goroutine moves on, waits or delivers only what it did before, and spares the others' channels. -/
theorem Correlated.moveGoroutine {c : Nat} {g : Goroutine} {router : Router} (correlated : Correlated s)
    (spawned : s.router.Spawned) (found : s.router.goroutines c = some g)
    (later : Later s.router.pendingReqs router.pendingReqs) (goroutines : router.goroutines = s.router.goroutines)
    (values : ∀ d, (router.pendingReqs.slots d).value = (s.router.pendingReqs.slots d).value)
    (waited : pc.waits = true → g.pc.waits = true) (delivers : ∀ x, pc = .deliver x → g.pc = .deliver x)
    (spared : ∀ d other, s.router.goroutines d = some other → other.pc.waits = true → (d = c → pc.waits = true) →
      (s.router.pendingReqs.slots d).value = none →
      (router.pendingReqs.slots d).closed = (s.router.pendingReqs.slots d).closed ∧ d ∉ pc.held)
    (received : ∀ x ∈ s.router.received, x ∈ router.received) :
    Correlated { s with router := router.setPc c g pc } := by
  refine correlated.keep spawned later values (fun d g' listed => ?_) (fun d g' listed waits empty => ?_) rfl received
  · rcases goroutine_of_setPc goroutines listed with ⟨rfl,rfl⟩ | ⟨_,old⟩
    · exact ⟨g,found,rfl,waited,delivers⟩
    · exact ⟨g',old,rfl,id,fun _ same => same⟩
  · obtain ⟨closed,unheld⟩ : (router.pendingReqs.slots d).closed = (s.router.pendingReqs.slots d).closed ∧
        d ∉ pc.held := by
      rcases goroutine_of_setPc goroutines listed with ⟨rfl,rfl⟩ | ⟨other,old⟩
      · exact spared d g found (waited waits) (fun _ => waits) empty
      · exact spared d g' old waits (fun same => absurd same other) empty
    refine ⟨closed,fun h member => ?_⟩
    cases h with
    | stdin | monitor | reader | stop => exact member
    | gateway e =>
      simp only [State.held,heldBy,setPc,goroutines,Function.update_apply] at member ⊢
      split at member
      · exact absurd member unheld
      · exact member

theorem stepGateway_correlated {move : GatewayMove} {router : Router}
    (accounts : Accounts s) (ground : Ground s) (sound : Sound s.desk) (proper : Proper s.inputs)
    (correlated : Correlated s) (found : s.router.goroutines c = some g)
    (stepped : g.step cfg c s.router move = some (pc,router)) :
    Correlated { s with router := router.setPc c g pc } := by
  obtain ⟨later,others⟩ := Goroutine.step_goroutines stepped
  have spare := @Correlated.moveGoroutine s pc c g router correlated accounts.spawned found later others
  have quiet : router.pendingReqs = s.router.pendingReqs → pc.held = [] → (pc.waits = true → g.pc.waits = true) →
      (∀ x, pc = .deliver x → g.pc = .deliver x) → router.received = s.router.received →
      Correlated { s with router := router.setPc c g pc } := by
    intro table free waited delivers received
    refine spare (fun d => by rw [table]) waited delivers (fun d other _ _ _ _ => ⟨by rw [table],?_⟩)
      (by rw [received]; exact fun _ => id)
    rw [free]
    exact not_mem_nil
  have running (cancelled : s.router.cancelled = true) : False := by
    rw [ground.uncancelled] at cancelled
    cases cancelled
  cases Goroutine.step_cases stepped with
  | sent at_ => exact quiet rfl rfl (by rw [at_]; exact fun _ => rfl) nofun rfl
  | failed | timedOut | stuck | delivered | overdue | reported => exact quiet rfl rfl nofun nofun rfl
  | received at_ got => exact correlated.receive found (by rw [at_]; rfl) got
  | quit _ cancelled | interrupted _ cancelled | silenced _ cancelled | gaveUp _ cancelled =>
    exact (running cancelled).elim
  | @removed after e at_ loaded =>
    have same := delete_same (r := s.router) g.job.request.id
    refine spare (fun d => by rw [delete_slots]) nofun nofun (fun d other found' waits own _ => ?_)
      (by rw [same.received]; exact fun _ => id)
    refine ⟨by rw [delete_slots],fun member => ?_⟩
    cases mem_singleton.mp member
    have equal := gateway_load_not_waiting ground sound proper correlated found loaded found'
      (GatewayPc.live_of_waits waits)
    cases own equal
  | @missing after at_ absent =>
    have same := delete_same (r := s.router) g.job.request.id
    refine quiet (delete_of_load_eq_none absent) (GatewayAfter.pc_held after) ?_ ?_ same.received
    all_goals cases after <;> exact nofun
  | @closed e after at_ =>
    have same := close_same (r := s.router) e
    have member : e ∈ s.held (.gateway c) := by
      simp only [State.held,heldBy,found,Option.elim_some,at_,GatewayPc.held]
      exact mem_singleton_self e
    refine spare (fun d => close_value e d) (by cases after <;> exact nofun) (by cases after <;> exact nofun)
      (fun d other found' waits _ empty => ?_) (by rw [same.received]; exact fun _ => id)
    have different : d ≠ e := by
      rintro rfl
      exact held_not_pristine accounts correlated (h := .gateway c) (by simp) member found' waits empty
    exact ⟨by rw [close_slots_of_ne different],by rw [GatewayAfter.pc_held]; exact not_mem_nil⟩

section
variable (correlated : Correlated s)
include correlated

theorem Correlated.idleReader (reader : s.reader.held = []) (table : next.router.pendingReqs = s.router.pendingReqs)
    (goroutines : next.router.goroutines = s.router.goroutines) (held : ∀ h, ∀ c ∈ next.held h, c ∈ s.held h)
    (routing : ∀ response, next.reader = .routing response → response ∈ next.router.received)
    (unsent : ∀ c response, next.reader ≠ .sending c response)
    (received : ∀ x ∈ s.router.received, x ∈ next.router.received) : Correlated next := by
  refine correlated_of_own routing fun c g found => ?_
  refine (correlated.own (goroutines ▸ found)).carry rfl (fun k => by rw [table]; exact id) (by rw [table])
    (fun x at_ => absurd at_ (unsent c x)) (fun waits _ => ⟨waits,fun pristine => ⟨?_,fun h member => ?_⟩⟩) (fun _ => id)
    received
  · rw [table]
    exact pristine.1
  · obtain ⟨response,at_⟩ := pristine.2 h (held h c member)
    rw [at_] at reader
    cases reader

theorem Correlated.route {c : Nat} (accounts : Accounts s) (at_ : s.reader = .routing response)
    (loaded : s.router.load response.id = some c) :
    Correlated { s with reader := .sending c response, router := s.router.delete response.id } := by
  obtain ⟨k,key,entry,_⟩ := load_eq_some loaded
  have same := delete_same (r := s.router) response.id
  have later : Later s.router.pendingReqs (s.router.delete response.id).pendingReqs := delete_later
  refine correlated_of_own nofun fun d g found => ?_
  rw [show (s.router.delete response.id).goroutines = _ from same.goroutines] at found
  have own := correlated.own found
  refine own.carry rfl (fun _ => later.old (accounts.spawned d g found)) (by rw [delete_slots]) ?_
    (fun waits _ => ⟨waits,fun pristine => ⟨?_,fun h member => ?_⟩⟩) (fun _ => id) (fun _ => by rw [same.received]; exact id)
  · rintro x ⟨⟩
    exact .inr ⟨Any.eq_of_key? key (own.entry k entry),correlated.routing response at_⟩
  · rw [delete_slots]
    exact pristine.1
  · by_cases own : h = .reader
    · subst own
      cases mem_singleton.mp member
      exact ⟨response,rfl⟩
    · have before : d ∈ s.held h := by
        cases h with
        | reader => exact absurd rfl own
        | stdin | monitor | stop => exact member
        | gateway e => simpa only [State.held,heldBy,same.goroutines] using member
      obtain ⟨x,sending⟩ := pristine.2 h before
      rw [at_] at sending
      cases sending

theorem Correlated.deliver (accounts : Accounts s) (at_ : s.reader = .sending c response) :
    Correlated { s with reader := .closing c, router := s.router.offer c response } := by
  have holds : c ∈ s.held .reader := by
    simp only [State.held,at_,Reader.held]
    exact mem_singleton_self c
  obtain ⟨slot,offered,_⟩ := Slot.offer_of_open response (accounts.table.heldOpen .reader c holds)
  have router : s.router.offer c response = { s.router with pendingReqs := s.router.pendingReqs.setSlot c slot } := by
    simp only [offer,Table.offer,offered,Except.map]
  rw [router]
  refine correlated_of_own (fun _ at_ => by cases at_) fun d g found => ?_
  have own := correlated.own found
  by_cases same : d = c
  · subst same
    refine ⟨own.entry,(by rintro _ ⟨⟩),fun x value => ?_,fun _ empty => ?_,own.delivering⟩
    · simp only [Table.setSlot_slots,if_true] at value
      exact (Slot.value_of_offer offered value).elim (own.value x) fun this => own.sending x (this ▸ at_)
    · simp only [Table.setSlot_slots,if_true] at empty
      exact absurd empty (Slot.value_ne_none_of_offer offered)
  · have slots : (s.router.pendingReqs.setSlot c slot).slots d = s.router.pendingReqs.slots d := by
      rw [Table.setSlot_slots,if_neg same]
    refine own.carry rfl (fun _ => id) (congrArg Slot.value slots) (fun _ at_ => by cases at_)
      (fun waits _ => ⟨waits,fun pristine => ⟨(congrArg Slot.closed slots).trans pristine.1,fun h member => ?_⟩⟩)
      (fun _ => id) (fun _ => id)
    have before : d ∈ s.held h := by
      cases h with
      | reader => exact absurd (mem_singleton.mp member) same
      | stdin | monitor | stop | gateway e => exact member
    obtain ⟨x,sending⟩ := pristine.2 h before
    rw [at_] at sending
    cases sending
    exact absurd rfl same

theorem Correlated.close {c : Nat} (at_ : s.reader = .closing c) :
    Correlated { s with reader := .idle, router := s.router.close c } := by
  have same := close_same (r := s.router) c
  have holds : c ∈ s.held .reader := by
    simp only [State.held,at_,Reader.held]
    exact mem_singleton_self c
  have unsent : ∀ {d}, ¬ ∃ response, s.reader = .sending d response := by
    rintro d ⟨response,sending⟩
    rw [at_] at sending
    cases sending
  refine correlated_of_own (fun _ at_ => by cases at_) fun d g found => ?_
  refine (correlated.own (same.goroutines ▸ found)).carry rfl (fun k => by rw [close_entries]; exact id)
    (close_value c d) (fun _ at_ => by cases at_) (fun waits _ => ⟨waits,fun pristine => ⟨?_,fun h member => ?_⟩⟩) (fun _ => id)
    (fun _ => by rw [same.received]; exact id)
  · have other : d ≠ c := by
      rintro rfl
      exact unsent (pristine.2 .reader holds)
    rw [close_slots_of_ne other]
    exact pristine.1
  · have before : d ∈ s.held h := by
      cases h with
      | reader => cases member
      | stdin | monitor | stop => exact member
      | gateway e => simpa only [State.held,heldBy,same.goroutines] using member
    exact absurd (pristine.2 h before) unsent

end

theorem stepReader_correlated {move : ReaderMove} (accounts : Accounts s) (ground : Ground s)
    (correlated : Correlated s) (taken : s.stepReader move = some next) : Correlated next := by
  cases stepReader_cases taken with
  | nothing at_ => exact correlated
  | @received response at_ =>
    refine correlated.idleReader (by rw [at_]; rfl) rfl rfl (fun h c member => ?_) ?_ nofun
      (fun _ member => mem_cons_of_mem _ member)
    · cases h with
      | reader => cases member
      | stdin | monitor | stop | gateway d => exact member
    · intro x same
      cases same
      exact mem_cons_self ..
  | routed at_ loaded => exact correlated.route accounts at_ loaded
  | @unrouted response at_ absent =>
    have same := delete_same (r := s.router) response.id
    refine correlated.idleReader (by rw [at_]; rfl) (delete_of_load_eq_none absent) same.goroutines
      (fun h c member => ?_) nofun nofun (by rw [same.received]; exact fun _ => id)
    cases h with
    | reader => cases member
    | stdin | monitor | stop => exact member
    | gateway d => simpa only [State.held,heldBy,same.goroutines] using member
  | delivered at_ => exact correlated.deliver accounts at_
  | closed at_ => exact correlated.close at_
  | left at_ cancelled | undelivered at_ cancelled =>
    rw [ground.uncancelled] at cancelled
    cases cancelled

end correlation

end McpBridge.MessageRouter
