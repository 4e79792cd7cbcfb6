import McpBridge.RouterSteps

/-!
Who holds which response channel. A goroutine that takes one out of `pendingReqs` is going to close it, and each step of
a request keeps the account of `Pending.Owned`.
-/
namespace McpBridge.MessageRouter
open Values Channels Pending Runs Function Router

namespace Router
variable {r : Router} {id : Any}

@[simp] theorem store_goroutines : (r.store id).goroutines = r.goroutines := by
  unfold store
  split <;> rfl

@[simp] theorem delete_goroutines : (r.delete id).goroutines = r.goroutines := by
  unfold delete
  split <;> rfl

@[simp] theorem close_goroutines (c : Nat) : (r.close c).goroutines = r.goroutines := by
  unfold close
  split <;> rfl

@[simp] theorem offer_goroutines (c : Nat) (x : Response) : (r.offer c x).goroutines = r.goroutines := by
  unfold offer
  split <;> rfl

theorem store_later : Later r.pendingReqs (r.store id).pendingReqs := by
  unfold store
  split
  · exact .refl _
  · exact .store _ _

theorem delete_later : Later r.pendingReqs (r.delete id).pendingReqs := by
  unfold delete
  split
  · exact .refl _
  · exact .delete _ _

theorem close_later (c : Nat) : Later r.pendingReqs (r.close c).pendingReqs := by
  unfold close Table.close
  cases (r.pendingReqs.slots c).close with
  | error panic => exact .refl _
  | ok slot => exact .setSlot c slot _

theorem offer_later (c : Nat) (x : Response) : Later r.pendingReqs (r.offer c x).pendingReqs := by
  unfold offer Table.offer
  cases (r.pendingReqs.slots c).offer x with
  | error panic => exact .refl _
  | ok slot => exact .setSlot c slot _

theorem processGatewayRequest_later (job : Job) : Later r.pendingReqs (r.processGatewayRequest job).pendingReqs := by
  unfold processGatewayRequest
  split
  · exact .refl _
  · exact .store _ _

theorem store_panic (running : r.panic = none) : (r.store id).panic = none ↔ id.Hashable := by
  unfold store Any.Hashable
  cases id.key? with
  | none => simp [crash]
  | some k => simp [running]

theorem delete_panic (running : r.panic = none) : (r.delete id).panic = none ↔ id.Hashable := by
  unfold delete Any.Hashable
  cases id.key? with
  | none => simp [crash]
  | some k => simp [running]

theorem processGatewayRequest_panic (running : r.panic = none) (job : Job) :
    (r.processGatewayRequest job).panic = none ↔ job.request.id.Hashable := by
  unfold processGatewayRequest Any.Hashable
  cases job.request.id.key? with
  | none => simp [crash]
  | some k => simp [running]

variable {c : Nat}

theorem load_eq_some (found : r.load id = some c) : ∃ k, id.key? = some k ∧ r.pendingReqs.entries k = some c ∧
      r.delete id = { r with pendingReqs := r.pendingReqs.delete k } := by
  obtain ⟨k,key,entry⟩ := Option.bind_eq_some_iff.mp found
  exact ⟨k,key,entry,by rw [delete,key]⟩

theorem delete_of_load_eq_none (absent : r.load id = none) : (r.delete id).pendingReqs = r.pendingReqs := by
  unfold delete
  cases key : id.key? with
  | none => rfl
  | some k => exact Table.delete_eq_self (by rw [load,key] at absent; exact absent)

variable {held : ι → List Nat}

section
variable (owned : Owned r.pendingReqs held)
include owned

theorem store_owned : Owned (r.store id).pendingReqs held := by
  unfold store
  split
  · exact owned
  · exact owned.store _

theorem close_owned [DecidableEq ι] {i : ι} {rest : List Nat} (holds : held i = c :: rest) :
    Owned (r.close c).pendingReqs (update held i rest) ∧ (r.close c).panic = r.panic := by
  obtain ⟨slot,closed,_,_,kept⟩ := owned.close holds
  unfold close
  rw [closed]
  exact ⟨kept,rfl⟩

theorem offer_owned {i : ι} (x : Response) (member : c ∈ held i) :
    Owned (r.offer c x).pendingReqs held ∧ (r.offer c x).panic = r.panic := by
  obtain ⟨slot,offered,kept⟩ := owned.offer x member
  unfold offer
  rw [offered]
  exact ⟨kept,rfl⟩

end

end Router

/-! ### Who holds which channel -/

/-- Who may hold channels. -/
inductive Holder where
  | stdin
  | monitor
  | reader
  | gateway (channel : Nat)
  | stop
  deriving DecidableEq

def Stage.held : Stage → List Nat
  | .close _ c _ => [c]
  | _ => []

def Progress.held : Progress → List Nat
  | .inside stage => stage.held
  | .returned _ => []

def Stdin.held : Stdin → List Nat
  | .processing _ stage => stage.held
  | _ => []

def Monitor.held : Monitor → List Nat
  | .processing _ stage _ => stage.held
  | _ => []

def Reader.held : Reader → List Nat
  | .sending c _ => [c]
  | .closing c => [c]
  | _ => []

def GatewayPc.held : GatewayPc → List Nat
  | .close c _ => [c]
  | _ => []

def Stop.held : Stop → List Nat
  | .unstarted => []
  | .ranging _ channels => channels
  | .shown _ _ _ channels => channels
  | .closing channels => channels

def Router.heldBy (r : Router) (c : Nat) : List Nat := (r.goroutines c).elim [] fun g => g.pc.held

/-- The channels that a holder is going to close. -/
def State.held (s : State) : Holder → List Nat
  | .stdin => s.stdin.held
  | .monitor => s.monitor.held
  | .reader => s.reader.held
  | .gateway c => s.router.heldBy c
  | .stop => s.stop.held

@[simp] theorem Stdin.returned_held (job : Job) (err : Option String) : (Stdin.returned job err).held = [] := by
  cases err <;> rfl

@[simp] theorem Stdin.resume_held (job : Job) (progress : Progress) :
    (Stdin.resume job progress).held = progress.held := by
  cases progress with
  | inside stage => rfl
  | returned err => exact Stdin.returned_held job err

@[simp] theorem Monitor.resume_held (job : Job) (rest : List Job) (progress : Progress) :
    (Monitor.resume job rest progress).held = progress.held := by
  cases progress <;> rfl

@[simp] theorem GatewayAfter.pc_held (after : GatewayAfter) : after.pc.held = [] := by
  cases after <;> rfl

@[simp] theorem finish_held (cfg : Config) (mode : Mode) (err : Option String) : (finish cfg mode err).held = [] := by
  cases mode with
  | single => rfl
  | attempt n =>
    cases err with
    | none => rfl
    | some err =>
      simp only [finish,attemptDirectWithRetries]
      repeat' split
      all_goals rfl

@[simp] theorem afterCleanup_held (cfg : Config) (mode : Mode) (after : DirectAfter) :
    (afterCleanup cfg mode after).held = [] := by
  cases after with
  | respond response => rfl
  | finish err => exact finish_held cfg mode err

@[simp] theorem afterRespond_held (mode : Mode) (err : Option String) : (afterRespond mode err).held = [] := by
  cases mode <;> rfl

@[simp] theorem afterAnswer_held (mode : Mode) (outcome : DirectOutcome) : (afterAnswer mode outcome).held = [] := by
  cases outcome with
  | noClient | failed | response => cases mode <;> rfl

@[simp] theorem processStdinMessageDirect_held (cfg : Config) (req : Request) :
    (processStdinMessageDirect cfg req).held = [] := by
  unfold processStdinMessageDirect processRequestWithFallback
  repeat' split
  all_goals rfl

def Stage.hashes : Stage → Move → Bool
  | .setup _,.go => true
  | .cleanup _ _,.go => true
  | .gateway,.go => true
  | _,_ => false

def Router.Spawned (r : Router) : Prop := ∀ c g, r.goroutines c = some g → c < r.pendingReqs.fresh

theorem Router.Spawned.of_later {r next : Router} (spawned : r.Spawned) (later : Later r.pendingReqs next.pendingReqs)
    (same : next.goroutines = r.goroutines) : next.Spawned :=
  fun c g found => Nat.lt_of_lt_of_le (spawned c g (same ▸ found)) later.fresh

variable {c : Nat} {g : Goroutine} {pc : GatewayPc}

theorem Router.goroutine_of_setPc {r router : Router} {d : Nat} {g' : Goroutine}
    (same : router.goroutines = r.goroutines) (found : (router.setPc c g pc).goroutines d = some g') :
    (d = c ∧ g' = { g with pc := pc }) ∨ (d ≠ c ∧ r.goroutines d = some g') := by
  simp only [setPc,same,update_apply] at found
  split at found
  next equal => exact .inl ⟨equal,(Option.some.inj found).symm⟩
  next other => exact .inr ⟨other,found⟩

theorem Router.processGatewayRequest_goroutines {r : Router} {job : Job}
    (found : (r.processGatewayRequest job).goroutines c = some g) : r.goroutines c = some g ∨ g = ⟨job,.send⟩ := by
  unfold processGatewayRequest at found
  split at found
  · exact .inl found
  · simp only [update_apply] at found
    split at found
    · exact .inr (Option.some.inj found).symm
    · exact .inl found

section steps
variable {cfg : Config} {job : Job} {r next : Router} {held : ι → List Nat} {stage : Stage} {move : Move}
  {progress : Progress}

private theorem update_nil [DecidableEq ι] {held : ι → List Nat} {i : ι} (holds : held i = []) :
    update held i [] = held := by
  rw [← holds,update_eq_self]

section
variable (owned : Owned r.pendingReqs held)
include owned

theorem Router.processGatewayRequest_owned : Owned (r.processGatewayRequest job).pendingReqs held := by
  unfold processGatewayRequest
  split
  · exact owned
  · exact owned.store _

theorem Router.delete_owned [DecidableEq ι] {id : Any} {i : ι} (holds : held i = []) (found : r.load id = some c) :
    Owned (r.delete id).pendingReqs (update held i [c]) := by
  obtain ⟨k,_,entry,deleted⟩ := load_eq_some found
  rw [deleted]
  simpa only [holds,List.nil_append] using owned.delete entry i

/-- A step of `processStdinMessageDirect` keeps the account, and panics only on an unhashable key. -/
theorem Stage.step_owned [DecidableEq ι] {i : ι} (holds : held i = stage.held) (running : r.panic = none)
    (taken : stage.step cfg job r move = some (progress,next)) :
    Owned next.pendingReqs (update held i progress.held) ∧
      (next.panic = none ↔ (stage.hashes move → job.request.id.Hashable)) := by
  -- Most steps touch neither the map nor a channel.
  have silent : ∀ {same : Router} {after : Progress}, same.pendingReqs = r.pendingReqs → same.panic = none →
      stage.held = [] → after.held = [] → stage.hashes move = false →
      Owned same.pendingReqs (update held i after.held) ∧
        (same.panic = none ↔ (stage.hashes move → job.request.id.Hashable)) := by
    intro same after table fine free freed plain
    rw [freed,update_nil (holds.trans free),table,plain]
    exact ⟨owned,fun _ impossible => absurd impossible Bool.false_ne_true,fun _ => fine⟩
  cases Stage.step_cases taken with
  | stored mode =>
    simp only [Progress.held,Stage.held,update_nil holds,Stage.hashes,true_implies]
    exact ⟨store_owned owned,store_panic running⟩
  | answered mode outcome => cases outcome <;> exact silent rfl running rfl (afterAnswer_held mode _) rfl
  | responded mode | interrupted mode => exact silent rfl running rfl (afterRespond_held mode _) rfl
  | removed mode after found =>
    simp only [Stage.hashes,true_implies]
    exact ⟨delete_owned owned holds found,delete_panic running⟩
  | missing mode after absent =>
    simp only [Stage.hashes,true_implies]
    rw [afterCleanup_held,update_nil holds,delete_of_load_eq_none absent]
    exact ⟨owned,delete_panic running⟩
  | closed mode c after =>
    simpa [Stage.hashes,running] using close_owned owned holds
  | retried | abandoned => exact silent rfl running rfl rfl rfl
  | handed =>
    simp only [Progress.held,update_nil holds,Stage.hashes,true_implies]
    exact ⟨processGatewayRequest_owned owned,processGatewayRequest_panic running job⟩

end

theorem Stage.step_goroutines (taken : stage.step cfg job r move = some (progress,next)) :
    Later r.pendingReqs next.pendingReqs ∧ (next.goroutines = r.goroutines ∨ next = r.processGatewayRequest job) := by
  cases Stage.step_cases taken with
  | stored mode => exact ⟨store_later,.inl store_goroutines⟩
  | answered mode outcome => cases outcome <;> exact ⟨.refl _,.inl rfl⟩
  | responded | interrupted | retried | abandoned => exact ⟨.refl _,.inl rfl⟩
  | removed | missing => exact ⟨delete_later,.inl delete_goroutines⟩
  | closed mode c after => exact ⟨close_later c,.inl (close_goroutines c)⟩
  | handed => exact ⟨processGatewayRequest_later job,.inr rfl⟩

theorem Stage.goroutine_of_step (taken : stage.step cfg job r move = some (progress,next))
    (found : next.goroutines c = some g) : r.goroutines c = some g ∨ g = ⟨job,.send⟩ := by
  obtain ⟨_,same | rfl⟩ := Stage.step_goroutines taken
  · exact .inl (same ▸ found)
  · exact processGatewayRequest_goroutines found

theorem Router.processGatewayRequest_spawned (spawned : r.Spawned) :
    (r.processGatewayRequest job).Spawned ∧ (r.processGatewayRequest job).heldBy = r.heldBy := by
  unfold processGatewayRequest
  split
  · exact ⟨spawned,rfl⟩
  constructor
  · intro c g found
    simp only [update_apply] at found
    split at found
    next same => rw [same]; exact Nat.lt_succ_self _
    next => exact Nat.lt_succ_of_lt (spawned c g found)
  · funext c
    simp only [heldBy,update_apply]
    split
    next same =>
      -- No goroutine had the new name.
      cases before : r.goroutines c with
      | none => rfl
      | some g => exact absurd (spawned c g before) (by rw [same]; exact Nat.lt_irrefl _)
    next => rfl

theorem Stage.step_spawned (spawned : r.Spawned) (taken : stage.step cfg job r move = some (progress,next)) :
    next.Spawned ∧ next.heldBy = r.heldBy := by
  obtain ⟨later,same | rfl⟩ := Stage.step_goroutines taken
  · refine ⟨spawned.of_later later same,?_⟩
    funext c
    rw [heldBy,heldBy,same]
  · exact processGatewayRequest_spawned spawned

def Goroutine.hashes (g : Goroutine) : GatewayMove → Bool
  | .go => match g.pc with
    | .cleanup _ => true
    | _ => false
  | _ => false

open Goroutine

/-- A step of `processGatewayRequest` keeps the account, and panics only on an unhashable key. -/
theorem Goroutine.step_owned [DecidableEq ι] {i : ι} {move : GatewayMove}
    (owned : Owned r.pendingReqs held) (holds : held i = g.pc.held) (made : c < r.pendingReqs.fresh)
    (running : r.panic = none) (taken : g.step cfg c r move = some (pc,next)) :
    Owned next.pendingReqs (update held i pc.held) ∧
      (next.panic = none ↔ (g.hashes move → g.job.request.id.Hashable)) := by
  have silent : ∀ {same : Router} {after : GatewayPc}, Owned same.pendingReqs held → same.panic = none →
      g.pc.held = [] → after.held = [] → g.hashes move = false → Owned same.pendingReqs (update held i after.held) ∧
        (same.panic = none ↔ (g.hashes move → g.job.request.id.Hashable)) := by
    intro same after kept fine free freed plain
    rw [freed,update_nil (holds.trans free),plain]
    exact ⟨kept,fun _ impossible => absurd impossible Bool.false_ne_true,fun _ => fine⟩
  -- A step that has no key in it, from a place where nothing is held.
  have plain : g.pc.held = [] → (move = .go → ∀ after, g.pc ≠ .cleanup after) → pc.held = [] →
      Owned next.pendingReqs held → next.panic = none → Owned next.pendingReqs (update held i pc.held) ∧
        (next.panic = none ↔ (g.hashes move → g.job.request.id.Hashable)) := by
    intro free away freed kept fine
    refine silent kept fine free freed ?_
    cases move with
    | go =>
      cases at_ : g.pc with
      | cleanup after => exact absurd at_ (away rfl after)
      | _ => simp [hashes,at_]
    | _ => rfl
  cases step_cases taken with
  | sent at_ | failed at_ | timedOut at_ | stuck at_ | quit at_ | interrupted at_ | silenced at_ =>
    exact plain (by rw [at_]; rfl) nofun rfl owned running
  | received at_ got => exact plain (by rw [at_]; rfl) nofun rfl (owned.receive made got) running
  | delivered at_ room | gaveUp at_ cancelled | overdue at_ cancelled | reported at_ room =>
    exact plain (by rw [at_]; rfl) (fun _ after => by rw [at_]; exact nofun) rfl owned running
  | removed at_ found =>
    rw [at_] at holds
    simp only [hashes,at_,true_implies]
    exact ⟨delete_owned owned holds found,delete_panic running⟩
  | missing at_ absent =>
    rw [at_] at holds
    simp only [hashes,at_,true_implies]
    rw [GatewayAfter.pc_held,update_nil holds,delete_of_load_eq_none absent]
    exact ⟨owned,delete_panic running⟩
  | closed at_ =>
    rw [at_] at holds
    simpa [hashes,at_,running] using close_owned owned holds

theorem Goroutine.step_goroutines {move : GatewayMove} (taken : g.step cfg c r move = some (pc,next)) :
    Later r.pendingReqs next.pendingReqs ∧ next.goroutines = r.goroutines := by
  cases step_cases taken with
  | received at_ got =>
    rw [(Table.receive_eq got).2]
    exact ⟨.setSlot _ _ _,rfl⟩
  | removed | missing => exact ⟨delete_later,delete_goroutines⟩
  | closed at_ => exact ⟨close_later _,close_goroutines _⟩
  | _ => exact ⟨.refl _,rfl⟩

end steps

variable {s next : State} {label : Label}

theorem stepReader_later {move : ReaderMove} (taken : s.stepReader move = some next) :
    Later s.router.pendingReqs next.router.pendingReqs := by
  cases stepReader_cases taken with
  | routed | unrouted => exact delete_later
  | delivered => exact offer_later _ _
  | closed => exact close_later _
  | nothing | received | left | undelivered => exact .refl _

theorem stepStop_later {move : StopMove} (taken : s.stepStop move = some next) :
    Later s.router.pendingReqs next.router.pendingReqs := by
  cases stepStop_cases taken with
  | removed => exact .delete _ _
  | closed => exact close_later _
  | begun | shown | missing | finished => exact .refl _

/-- A step of the router leaves the gateway path's goroutines alone, starts one, or moves one. -/
theorem step_goroutines {cfg : Config} (taken : step cfg s label = some next) :
    (next.router.goroutines = s.router.goroutines ∧ Later s.router.pendingReqs next.router.pendingReqs) ∨
      (∃ job, next.router = s.router.processGatewayRequest job) ∨
      ∃ c move g pc router, label = .gateway c move ∧ s.router.goroutines c = some g ∧
        g.step cfg c s.router move = some (pc,router) ∧ next.router = router.setPc c g pc := by
  obtain ⟨_,way⟩ := taken_of_step taken
  cases way with
  | stdin moved =>
    cases stepStdin_cases moved with
    | processed at_ stepped =>
      obtain ⟨later,same | spawned⟩ := Stage.step_goroutines stepped
      · exact .inl ⟨same,later⟩
      · exact .inr (.inl ⟨_,spawned⟩)
    | _ => exact .inl ⟨rfl,.refl _⟩
  | monitor moved =>
    cases stepMonitor_cases moved with
    | processed at_ stepped =>
      obtain ⟨later,same | spawned⟩ := Stage.step_goroutines stepped
      · exact .inl ⟨same,later⟩
      · exact .inr (.inl ⟨_,spawned⟩)
    | _ => exact .inl ⟨rfl,.refl _⟩
  | @reader move next moved => exact .inl ⟨(stepReader_untouched moved).1.goroutines,stepReader_later moved⟩
  | @stop move next moved => exact .inl ⟨(stepStop_untouched moved).1.goroutines,stepStop_later moved⟩
  | gateway found moved => exact .inr (.inr ⟨_,_,_,_,_,rfl,found,moved,rfl⟩)
  | connection | expire | drain => exact .inl ⟨rfl,.refl _⟩

theorem step_spawned {cfg : Config} (spawned : s.router.Spawned)
    (taken : step cfg s label = some next) : next.router.Spawned := by
  obtain ⟨same,later⟩ | ⟨job,started⟩ | ⟨c,move,g,pc,router,_,found,moved,same⟩ := step_goroutines taken
  · exact spawned.of_later later same
  · rw [started]
    exact (processGatewayRequest_spawned spawned).1
  · obtain ⟨later,others⟩ := Goroutine.step_goroutines moved
    rw [same]
    intro d g' listed
    refine Nat.lt_of_lt_of_le ?_ later.fresh
    obtain ⟨rfl,_⟩ | ⟨_,old⟩ := goroutine_of_setPc others listed
    · exact spawned d g found
    · exact spawned d g' old

end McpBridge.MessageRouter
