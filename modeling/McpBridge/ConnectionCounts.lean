import McpBridge.Runs
import McpBridge.Sessions
import McpBridge.Tallies

/-!
Connection accounting of the WebSocket and TCP frontends.
-/
namespace McpBridge.ConnectionCounts
open Runs Tallies Table Function
open Outcomes (Outcome)
open Sessions (Session)

inductive Frontend where
  | webSocket
  | tcp
  deriving DecidableEq, Repr

/-- A frontend with its limits, and the address and session of every attempt. -/
structure Site where
  frontend : Frontend
  maxConnections : Int
  /-- `server.max_connections_per_ip`, which no frontend reads. -/
  maxConnectionsPerIP : Int
  clientIP : Nat → String
  session : Nat → String
  distinct : Injective session

inductive Stage where
  | accepted
  | admitted
  | authenticated
  | upgraded
  | identified
  | inserted
  | counted
  | loaded (counter : Nat)
  | serving
  | deleted (client : Nat)
  | uncounted (client : Nat)
  | found (client counter : Nat)
  | emptied (client : Nat)
  | finished
  deriving DecidableEq, Repr

namespace Stage

def registered : Stage → Bool
  | .inserted | .counted | .loaded _ | .serving => true
  | _ => false

/-- The connection has been added to `connCount` and not yet subtracted. -/
def isCounted : Stage → Bool
  | .counted | .loaded _ | .serving | .deleted _ => true
  | _ => false

def raised : Stage → Bool
  | .serving | .deleted _ | .uncounted _ | .found _ _ => true
  | _ => false

def busy : Stage → Bool
  | .inserted | .counted | .loaded _ | .deleted _ | .uncounted _ | .found _ _ | .emptied _ => true
  | _ => false

def client : Stage → Option Nat
  | .deleted client | .uncounted client | .found client _ | .emptied client => some client
  | _ => none

def outside (stage : Stage) : Bool := !stage.registered && !stage.busy

end Stage

/-- The attempts, the registry and the counters. -/
structure State where
  accepted : Nat := 0
  stage : Nat → Stage := fun _ => .accepted
  connections : String → Option Nat := fun _ => none
  connCount : Int := 0
  /-- The counter that an attempt makes is called after the attempt. -/
  ipConnCount : Table String Nat := {}
  running : Bool := true
  listening : Bool := true
  crashed : Bool := false

def init : State := {}

def State.move (s : State) (i : Nat) (stage : Stage) : State := { s with stage := update s.stage i stage }

/-- The steps of connections and of `Stop`. -/
inductive Label where
  | accept
  | check (i : Nat)
  | authenticate (i : Nat) (outcome : Outcome Unit)
  | upgrade (i : Nat) (succeeds : Bool)
  | createSession (i : Nat) (outcome : Outcome Session)
  | insert (i : Nat)
  | count (i : Nat)
  | load (i : Nat)
  | raise (i : Nat)
  | leave (i : Nat)
  | uncount (i : Nat)
  | find (i : Nat)
  | lower (i : Nat)
  | delete (i : Nat)
  | stop
  | closeListener

section
variable (site : Site)

def Site.sessionless : Stage :=
  match site.frontend with
  | .webSocket => .upgraded
  | .tcp => .admitted

def checkConnectionLimits (s : State) : Stage := if s.connCount ≥ site.maxConnections then .finished else .admitted

/-- The session manager answers. A panic ends the attempt where the HTTP server recovers, and else the process. -/
def createSession (s : State) (i : Nat) : Outcome Session → State
  | .value _ => s.move i .identified
  | .error _ => s.move i .finished
  | .panic => { s.move i .finished with crashed := decide (site.frontend = .tcp) }

/-- One step of the frontend. `Stop` closes the connections, whose read loops may end at any time anyway. -/
def step (s : State) (label : Label) : Option State :=
  if s.crashed then none else
  match label with
  | .accept => if s.listening then some { s with accepted := s.accepted + 1 } else none
  | .check i =>
    if i < s.accepted ∧ s.stage i = .accepted then some (s.move i (checkConnectionLimits site s)) else none
  | .authenticate i outcome =>
    if site.frontend = .webSocket ∧ s.stage i = .admitted then
      some (s.move i (match outcome with | .value _ => .authenticated | _ => .finished))
    else none
  | .upgrade i succeeds =>
    if s.stage i = .authenticated then some (s.move i (if succeeds then .upgraded else .finished)) else none
  | .createSession i outcome => if s.stage i = site.sessionless then some (createSession site s i outcome) else none
  | .insert i =>
    if s.stage i = .identified then
      some { s.move i .inserted with connections := update s.connections (site.session i) (some i) }
    else none
  | .count i => if s.stage i = .inserted then some { s.move i .counted with connCount := s.connCount + 1 } else none
  | .load i =>
    if s.stage i = .counted then
      let (counter,table) := s.ipConnCount.loadOrStore (site.clientIP i) i
      some { s.move i (.loaded counter) with ipConnCount := table }
    else none
  | .raise i =>
    match s.stage i with
    | .loaded counter => some { s.move i .serving with ipConnCount := s.ipConnCount.add counter 1 }
    | _ => none
  | .leave i =>
    if s.stage i = .serving then
      match s.connections (site.session i) with
      | some client =>
        some { s.move i (.deleted client) with
          connections := update s.connections (site.session i) none }
      | none => some (s.move i .finished)
    else none
  | .uncount i =>
    match s.stage i with
    | .deleted client => some { s.move i (.uncounted client) with connCount := s.connCount - 1 }
    | _ => none
  | .find i =>
    match s.stage i with
    | .uncounted client =>
      match s.ipConnCount.entry (site.clientIP client) with
      | some counter => some (s.move i (.found client counter))
      | none => some (s.move i .finished)
    | _ => none
  | .lower i =>
    match s.stage i with
    | .found client counter =>
      let count := s.ipConnCount.counter counter - 1
      some { s.move i (if count ≤ 0 then .emptied client else .finished) with
        ipConnCount := s.ipConnCount.add counter (-1) }
    | _ => none
  | .delete i =>
    match s.stage i with
    | .emptied client =>
      some { s.move i .finished with ipConnCount := s.ipConnCount.delete (site.clientIP client) }
    | _ => none
  | .stop => some { s with running := false }
  | .closeListener =>
    if site.frontend = .tcp ∧ s.running = false then some { s with listening := false } else none

/-- How many connections `connCount` should show. -/
def State.counted (s : State) : Nat := tally s.accepted (fun _ stage => stage.isCounted) s.stage

def State.raised (s : State) (ip : String) : Nat :=
  tally s.accepted (fun i stage => decide (site.clientIP i = ip) && stage.raised) s.stage

/-- The total and every count per IP are the numbers of live connections, and within their limits. -/
structure Accounted (s : State) : Prop where
  total : s.connCount = s.counted
  perIP : ∀ ip, s.ipConnCount.value ip = s.raised site ip
  within : s.connCount ≤ site.maxConnections
  withinIP : ∀ ip, s.ipConnCount.value ip ≤ site.maxConnectionsPerIP

/-- A connection is added to the total while that is below its limit, and to the counter of its IP while that is the
    IP's entry and below its limit; no entry that counts connections is deleted. -/
def Careful (s : State) : Label → Prop
  | .count _ => s.connCount < site.maxConnections
  | .raise i => ∃ counter, s.stage i = .loaded counter ∧ s.ipConnCount.entry (site.clientIP i) = some counter ∧
      s.ipConnCount.counter counter < site.maxConnectionsPerIP
  | .delete i => s.ipConnCount.value (site.clientIP i) = 0
  | _ => True

/-- No attempt or removal is under way. -/
def Settled (s : State) : Prop := ∀ i, (s.stage i).busy = false

def State.live (s : State) : Finset Nat :=
  (Finset.range s.accepted).filter fun i => s.connections (site.session i) = some i

/-- The counts are those of the registry, and within their limits. -/
structure Matches (s : State) : Prop where
  total : s.connCount = (s.live site).card
  perIP : ∀ ip, s.ipConnCount.value ip = ((s.live site).filter fun i => site.clientIP i = ip).card
  within : ((s.live site).card : Int) ≤ site.maxConnections
  withinIP : ∀ ip, (((s.live site).filter fun i => site.clientIP i = ip).card : Int) ≤ site.maxConnectionsPerIP

inductive Effect (s : State) : Label → State → Prop where
  | accept : Effect s .accept { s with accepted := s.accepted + 1 }
  | walk {label : Label} {i : Nat} {stage : Stage} {crashed : Bool} (inside : s.stage i = .accepted → i < s.accepted)
      (before : (s.stage i).outside = true) (after : stage.outside = true) (careful : Careful site s label) :
      Effect s label { s.move i stage with crashed := crashed }
  | still {label : Label} {running listening : Bool} (careful : Careful site s label) :
      Effect s label { s with running := running, listening := listening }
  | insert {i : Nat} (here : s.stage i = .identified) : Effect s (.insert i)
      { s.move i .inserted with connections := update s.connections (site.session i) (some i) }
  | count {i : Nat} (here : s.stage i = .inserted) :
      Effect s (.count i) { s.move i .counted with connCount := s.connCount + 1 }
  | load {i : Nat} (here : s.stage i = .counted) : Effect s (.load i)
      { s.move i (.loaded (s.ipConnCount.loadOrStore (site.clientIP i) i).1) with
        ipConnCount := (s.ipConnCount.loadOrStore (site.clientIP i) i).2 }
  | raise {i counter : Nat} (here : s.stage i = .loaded counter) :
      Effect s (.raise i) { s.move i .serving with ipConnCount := s.ipConnCount.add counter 1 }
  | leave {i client : Nat} (here : s.stage i = .serving) (registered : s.connections (site.session i) = some client) :
      Effect s (.leave i)
        { s.move i (.deleted client) with connections := update s.connections (site.session i) none }
  | unregistered {i : Nat} (here : s.stage i = .serving) (absent : s.connections (site.session i) = none) :
      Effect s (.leave i) (s.move i .finished)
  | uncount {i client : Nat} (here : s.stage i = .deleted client) :
      Effect s (.uncount i) { s.move i (.uncounted client) with connCount := s.connCount - 1 }
  | find {i client counter : Nat} (here : s.stage i = .uncounted client)
      (entry : s.ipConnCount.entry (site.clientIP client) = some counter) :
      Effect s (.find i) (s.move i (.found client counter))
  | lost {i client : Nat} (here : s.stage i = .uncounted client)
      (absent : s.ipConnCount.entry (site.clientIP client) = none) : Effect s (.find i) (s.move i .finished)
  | lower {i client counter : Nat} {stage : Stage} (here : s.stage i = .found client counter)
      (after : stage = .emptied client ∨ stage = .finished) :
      Effect s (.lower i) { s.move i stage with ipConnCount := s.ipConnCount.add counter (-1) }
  | delete {i client : Nat} (here : s.stage i = .emptied client) : Effect s (.delete i)
      { s.move i .finished with ipConnCount := s.ipConnCount.delete (site.clientIP client) }

end

section
variable {site : Site} {s next : State} {label : Label} {i : Nat}

theorem createSession_effect (outcome : Outcome Session) (inside : s.stage i = .accepted → i < s.accepted)
    (before : (s.stage i).outside = true) :
    Effect site s (.createSession i outcome) (createSession site s i outcome) := by
  cases outcome with
  | value | error | panic => exact .walk inside before rfl trivial

theorem step_effect (taken : step site s label = some next) : Effect site s label next := by
  revert taken
  fun_cases step site s label <;> rintro ⟨⟩
  case case2 => exact .accept
  case case4 i inside =>
    refine .walk (fun _ => inside.1) (by rw [inside.2]; rfl) ?_ trivial
    unfold checkConnectionLimits
    split <;> rfl
  case case6 i outcome here =>
    refine .walk (by rw [here.2]; nofun) (by rw [here.2]; rfl) ?_ trivial
    cases outcome <;> rfl
  case case8 i succeeds here =>
    refine .walk (by rw [here]; nofun) (by rw [here]; rfl) ?_ trivial
    cases succeeds <;> rfl
  case case10 i outcome here =>
    unfold Site.sessionless at here
    split at here
    all_goals exact createSession_effect outcome (by rw [here]; nofun) (by rw [here]; rfl)
  case case12 here => exact .insert here
  case case14 here => exact .count here
  case case16 i here _ _ stored =>
    have loaded : Effect site s (.load i) _ := .load here
    rwa [stored] at loaded
  case case18 here => exact .raise here
  case case20 here _ registered => exact .leave here registered
  case case21 here absent => exact .unregistered here absent
  case case23 here => exact .uncount here
  case case25 here _ entry => exact .find here entry
  case case26 here absent => exact .lost here absent
  case case28 here _ =>
    refine .lower here ?_
    split
    · exact .inl rfl
    · exact .inr rfl
  case case30 here => exact .delete here
  case case32 | case33 => exact .still trivial

/-- The registry and the total follow the stages, and an IP's entry is a counter made for it. -/
structure Inv (site : Site) (s : State) : Prop where
  fresh : ∀ i, s.accepted ≤ i → s.stage i = .accepted
  registry : ∀ i, s.connections (site.session i) = if (s.stage i).registered then some i else none
  named : ∀ i client, (s.stage i).client = some client → client = i
  total : s.connCount = s.counted
  owned : ∀ ip counter, s.ipConnCount.entry ip = some counter → site.clientIP counter = ip

variable {stage : Stage}

theorem Inv.inside (inv : Inv site s) (here : s.stage i = stage) (begun : stage ≠ .accepted) : i < s.accepted := by
  by_contra late
  exact begun (here.symm.trans (inv.fresh i (Nat.le_of_not_lt late)))

theorem Inv.inside_of_first (inv : Inv site s) (first : s.stage i = .accepted → i < s.accepted) : i < s.accepted := by
  by_cases begun : s.stage i = .accepted
  · exact first begun
  · exact inv.inside rfl begun

/-- The goroutine of an attempt goes from one stage to another. -/
structure Goes (s next : State) (i : Nat) (before after : Stage) : Prop where
  here : s.stage i = before
  inside : i < s.accepted
  accepted : next.accepted = s.accepted
  moved : next.stage = update s.stage i after

variable {before after : Stage}

section
variable (goes : Goes s next i before after)
include goes

theorem Goes.counted : next.counted + before.isCounted.toNat = s.counted + after.isCounted.toNat := by
  unfold State.counted
  rw [goes.accepted,goes.moved,← goes.here]
  exact tally_update goes.inside after

theorem Goes.raised (site : Site) (ip : String) : (next.raised site ip : Int) = s.raised site ip +
      if site.clientIP i = ip then (after.raised.toNat : Int) - before.raised.toNat else 0 := by
  have counts : next.raised site ip + (decide (site.clientIP i = ip) && before.raised).toNat =
      s.raised site ip + (decide (site.clientIP i = ip) && after.raised).toNat := by
    unfold State.raised
    rw [goes.accepted,goes.moved,← goes.here]
    exact tally_update goes.inside after
  by_cases own : site.clientIP i = ip
  · simp only [own,decide_true,Bool.true_and,if_true] at counts ⊢
    omega
  · simp only [own,decide_false,Bool.false_and,if_false] at counts ⊢
    omega

theorem Goes.raised_same (same : after.raised = before.raised) (site : Site) (ip : String) : next.raised site ip = s.raised site ip := by
  have raised := goes.raised site ip
  rw [same,Int.sub_self,ite_self,Int.add_zero] at raised
  exact Int.ofNat.inj raised

end

theorem Inv.goes (inv : Inv site s) (goes : Goes s next i before after)
    (own : next.connections (site.session i) = if after.registered then some i else none)
    (others : ∀ j, j ≠ i → next.connections (site.session j) = s.connections (site.session j))
    (named : ∀ client, after.client = some client → client = i)
    (total : next.connCount + before.isCounted.toNat = s.connCount + after.isCounted.toNat)
    (owned : ∀ ip counter, next.ipConnCount.entry ip = some counter → site.clientIP counter = ip) : Inv site next where
  fresh j late := by
    have inside := goes.inside
    rw [goes.accepted] at late
    have different : j ≠ i := by omega
    rw [goes.moved,update_of_ne different]
    exact inv.fresh j late
  registry j := by
    by_cases same : j = i
    · subst j
      rw [own,goes.moved,update_self]
    · rw [others j same,goes.moved,update_of_ne same]
      exact inv.registry j
  named j client := by
    by_cases same : j = i
    · subst j
      rw [goes.moved,update_self]
      exact named client
    · rw [goes.moved,update_of_ne same]
      exact inv.named j client
  total := by
    have counts := goes.counted
    have sum := inv.total
    omega
  owned := owned

theorem Inv.goes_quietly (inv : Inv site s) (goes : Goes s next i before after)
    (connections : next.connections = s.connections) (registered : after.registered = before.registered)
    (named : ∀ client, after.client = some client → client = i)
    (total : next.connCount + before.isCounted.toNat = s.connCount + after.isCounted.toNat)
    (owned : ∀ ip counter, next.ipConnCount.entry ip = some counter → site.clientIP counter = ip) : Inv site next := by
  refine inv.goes goes ?_ (fun j _ => by rw [connections]) named total owned
  rw [connections,inv.registry i,goes.here,registered]

theorem outside_idle (outside : stage.outside = true) :
    stage.registered = false ∧ stage.isCounted = false ∧ stage.raised = false ∧ stage.client = none := by
  cases stage <;> first | exact ⟨rfl,rfl,rfl,rfl⟩ | cases outside

theorem init_inv : Inv site init where
  fresh _ _ := rfl
  registry _ := rfl
  named _ _ none := by cases none
  total := rfl
  owned _ _ none := by cases none

theorem Inv.registers (inv : Inv site s) (here : (s.stage i).registered = true) :
    s.connections (site.session i) = some i := by
  rw [inv.registry i,here]
  rfl

theorem registry_elsewhere (site : Site) (s : State) {i j : Nat} (different : j ≠ i) (entry : Option Nat) :
    update s.connections (site.session i) entry (site.session j) = s.connections (site.session j) :=
  update_of_ne (fun same => different (site.distinct same)) _ _

theorem effect_inv (inv : Inv site s) (effect : Effect site s label next) : Inv site next := by
  cases effect with
  | accept =>
    refine ⟨fun j late => inv.fresh j (Nat.le_of_succ_le late),inv.registry,inv.named,?_,inv.owned⟩
    show s.connCount = tally (s.accepted + 1) _ s.stage
    rw [tally_succ,inv.fresh s.accepted (Nat.le_refl _)]
    exact inv.total
  | @walk label i stage crashed first start finish _ =>
    obtain ⟨registered,counted,_,_⟩ := outside_idle start
    obtain ⟨registered',counted',_,client'⟩ := outside_idle finish
    refine inv.goes_quietly ⟨rfl,inv.inside_of_first first,rfl,rfl⟩ rfl (registered'.trans registered.symm) ?_ ?_ inv.owned
    · rw [client']
      nofun
    · rw [counted,counted']
      rfl
  | still _ => exact ⟨inv.fresh,inv.registry,inv.named,inv.total,inv.owned⟩
  | @insert i here =>
    refine inv.goes ⟨here,inv.inside here nofun,rfl,rfl⟩ ?_ (fun j different => ?_) nofun rfl inv.owned
    · exact update_self _ _ _
    · exact registry_elsewhere site s different _
  | @count i here =>
    refine inv.goes_quietly ⟨here,inv.inside here nofun,rfl,rfl⟩ rfl rfl nofun ?_ inv.owned
    show s.connCount + 1 + 0 = s.connCount + 1
    omega
  | @load i here =>
    refine inv.goes_quietly ⟨here,inv.inside here nofun,rfl,rfl⟩ rfl rfl nofun rfl ?_
    intro ip counter entry
    rcases loadOrStore_entry_cases _ _ _ _ entry with earlier | ⟨rfl,rfl⟩
    · exact inv.owned ip counter earlier
    · rfl
  | @raise i counter here | @lost i client here absent =>
    exact inv.goes_quietly ⟨here,inv.inside here nofun,rfl,rfl⟩ rfl rfl nofun rfl inv.owned
  | @leave i client here registered =>
    have own : client = i := by
      rw [inv.registers (by rw [here]; rfl)] at registered
      exact (Option.some.inj registered).symm
    subst client
    refine inv.goes ⟨here,inv.inside here nofun,rfl,rfl⟩ ?_ (fun j different => ?_) ?_ rfl inv.owned
    · exact update_self _ _ _
    · exact registry_elsewhere site s different _
    · rintro client ⟨⟩
      rfl
  | @unregistered i here absent =>
    rw [inv.registers (by rw [here]; rfl)] at absent
    cases absent
  | @uncount i client here =>
    obtain rfl := inv.named i client (by rw [here]; rfl)
    refine inv.goes_quietly ⟨here,inv.inside here nofun,rfl,rfl⟩ rfl rfl ?_ ?_ inv.owned
    · rintro other ⟨⟩
      rfl
    · show s.connCount - 1 + 1 = s.connCount + 0
      omega
  | @find i client counter here entry =>
    obtain rfl := inv.named i client (by rw [here]; rfl)
    refine inv.goes_quietly ⟨here,inv.inside here nofun,rfl,rfl⟩ rfl rfl ?_ rfl inv.owned
    rintro other ⟨⟩
    rfl
  | @lower i client counter stage here left =>
    obtain rfl := inv.named i client (by rw [here]; rfl)
    rcases left with rfl | rfl
    · refine inv.goes_quietly ⟨here,inv.inside here nofun,rfl,rfl⟩ rfl rfl ?_ rfl inv.owned
      rintro other ⟨⟩
      rfl
    · exact inv.goes_quietly ⟨here,inv.inside here nofun,rfl,rfl⟩ rfl rfl nofun rfl inv.owned
  | @delete i client here =>
    refine inv.goes_quietly ⟨here,inv.inside here nofun,rfl,rfl⟩ rfl rfl nofun rfl ?_
    intro ip counter entry
    by_cases same : ip = site.clientIP client
    · subst ip
      simp [delete] at entry
    · simp only [delete,update_of_ne same] at entry
      exact inv.owned ip counter entry

/-- A removal that has looked up its counter has the entry of its IP. -/
def Found (site : Site) (s : State) : Prop :=
  ∀ i client counter, s.stage i = .found client counter → s.ipConnCount.entry (site.clientIP i) = some counter

theorem Found.move (found : Found site s) (moved : next.stage = update s.stage i stage)
    (own : ∀ client counter, stage = .found client counter →
      next.ipConnCount.entry (site.clientIP i) = some counter)
    (others : ∀ j client counter, s.stage j = .found client counter →
      next.ipConnCount.entry (site.clientIP j) = s.ipConnCount.entry (site.clientIP j)) : Found site next := by
  intro j client counter at_
  rw [moved] at at_
  by_cases same : j = i
  · subst j
    rw [update_self] at at_
    exact own client counter at_
  · rw [update_of_ne same] at at_
    exact (others j client counter at_).trans (found j client counter at_)

theorem Inv.raised_pos (inv : Inv site s) (here : (s.stage i).raised = true) : 0 < s.raised site (site.clientIP i) := by
  have inside : i < s.accepted := inv.inside rfl (fun first => by rw [first] at here; cases here)
  refine tally_pos inside ?_
  rw [decide_eq_true rfl,here]
  rfl

variable {counter : Nat}

theorem Inv.entry_iff (inv : Inv site s) (entry : s.ipConnCount.entry (site.clientIP i) = some counter) (ip : String) :
    s.ipConnCount.entry ip = some counter ↔ site.clientIP i = ip := by
  constructor
  · intro same
    exact (inv.owned _ counter entry).symm.trans (inv.owned ip counter same)
  · rintro rfl
    exact entry

theorem effect_found (inv : Inv site s) (found : Found site s) (accounted : Accounted site s)
    (careful : Careful site s label) (effect : Effect site s label next) : Found site next := by
  cases effect with
  | accept => exact found
  | @walk label i stage crashed first before after _ =>
    refine found.move rfl ?_ (fun _ _ _ _ => rfl)
    rintro client counter rfl
    cases after
  | still _ => exact found
  | insert | count | raise | leave | unregistered | uncount | lost => exact found.move rfl nofun (fun _ _ _ _ => rfl)
  | load here =>
    refine found.move rfl nofun (fun j client counter at_ => ?_)
    rw [found j client counter at_]
    exact loadOrStore_entry_of_some _ _ _ _ (found j client counter at_)
  | @find i client counter here entry =>
    refine found.move rfl ?_ (fun _ _ _ _ => rfl)
    rintro other own ⟨⟩
    rw [← inv.named i client (by rw [here]; rfl)]
    exact entry
  | lower here after =>
    refine found.move rfl ?_ (fun _ _ _ _ => rfl)
    rintro client counter rfl
    rcases after with after | after <;> cases after
  | @delete i client here =>
    obtain rfl := inv.named i client (by rw [here]; rfl)
    refine found.move rfl nofun (fun j other counter at_ => ?_)
    -- An entry that another removal has looked up counts the connection of that removal.
    have positive := inv.raised_pos (show (s.stage j).raised = true by rw [at_]; rfl)
    have different : site.clientIP j ≠ site.clientIP client := by
      intro same
      have zero : s.ipConnCount.value (site.clientIP client) = 0 := careful
      have counts := accounted.perIP (site.clientIP j)
      rw [same] at counts positive
      omega
    exact update_of_ne different _ _

/-! ### Which steps keep the accounts -/

theorem Accounted.kept (accounted : Accounted site s) (inv : Inv site next) (fewer : next.connCount ≤ s.connCount)
    (values : ∀ ip, next.ipConnCount.value ip = s.ipConnCount.value ip)
    (raised : ∀ ip, next.raised site ip = s.raised site ip) : Accounted site next where
  total := inv.total
  perIP ip := by rw [values,raised,accounted.perIP]
  within := fewer.trans accounted.within
  withinIP ip := values ip ▸ accounted.withinIP ip

theorem Accounted.goes (accounted : Accounted site s) (inv : Inv site next) (goes : Goes s next i before after)
    (same : after.raised = before.raised) (fewer : next.connCount ≤ s.connCount)
    (values : ∀ ip, next.ipConnCount.value ip = s.ipConnCount.value ip) : Accounted site next :=
  accounted.kept inv fewer values (goes.raised_same same site)

theorem perIP_iff (inv : Inv site s) (accounted : Accounted site s) {amount : Int}
    (table : next.ipConnCount = s.ipConnCount.add counter amount)
    (raised : ∀ ip, (next.raised site ip : Int) = s.raised site ip + if site.clientIP i = ip then amount else 0)
    (changes : amount ≠ 0) : (∀ ip, next.ipConnCount.value ip = next.raised site ip) ↔
      s.ipConnCount.entry (site.clientIP i) = some counter := by
  rw [table]
  constructor
  · intro all
    by_contra missed
    have own := all (site.clientIP i)
    rw [value_add,if_neg missed,raised,if_pos rfl,accounted.perIP] at own
    omega
  · intro entry ip
    rw [value_add,raised,accounted.perIP,if_congr (inv.entry_iff entry ip) rfl rfl]

theorem count_accounted_iff (inv : Inv site next) (accounted : Accounted site s) (goes : Goes s next i before after)
    (same : after.raised = before.raised) (more : next.connCount = s.connCount + 1)
    (table : next.ipConnCount = s.ipConnCount) : Accounted site next ↔ s.connCount < site.maxConnections := by
  constructor
  · intro counted
    have limit := counted.within
    omega
  · intro below
    refine ⟨inv.total,fun ip => ?_,by omega,fun ip => table ▸ accounted.withinIP ip⟩
    rw [table,goes.raised_same same,accounted.perIP]

theorem raise_accounted_iff (inv : Inv site s) (inv' : Inv site next) (accounted : Accounted site s)
    (goes : Goes s next i (.loaded counter) .serving) (total : next.connCount = s.connCount)
    (table : next.ipConnCount = s.ipConnCount.add counter 1) :
    Accounted site next ↔ s.ipConnCount.entry (site.clientIP i) = some counter ∧
      s.ipConnCount.counter counter < site.maxConnectionsPerIP := by
  have perIP := perIP_iff inv accounted table (goes.raised site) (by decide)
  have value (ip : String) (entry : s.ipConnCount.entry ip = some counter) :
      next.ipConnCount.value ip = s.ipConnCount.counter counter + 1 := by
    rw [table,value_add,if_pos entry,value,entry]
    rfl
  constructor
  · intro counted
    have entry := perIP.mp counted.perIP
    refine ⟨entry,?_⟩
    have limit := counted.withinIP (site.clientIP i)
    rw [value _ entry] at limit
    omega
  · rintro ⟨entry,below⟩
    refine ⟨inv'.total,perIP.mpr entry,total ▸ accounted.within,fun ip => ?_⟩
    by_cases own : s.ipConnCount.entry ip = some counter
    · rw [value ip own]
      omega
    · rw [table,value_add,if_neg own,Int.add_zero]
      exact accounted.withinIP ip

theorem lower_accounted (inv : Inv site s) (inv' : Inv site next) (found : Found site s)
    (accounted : Accounted site s) {client : Nat} (goes : Goes s next i (.found client counter) after)
    (unraised : after.raised = false) (total : next.connCount = s.connCount)
    (table : next.ipConnCount = s.ipConnCount.add counter (-1)) : Accounted site next := by
  have raised := goes.raised site
  rw [unraised] at raised
  have entry := found i client counter goes.here
  refine ⟨inv'.total,(perIP_iff inv accounted table raised (by decide)).mpr entry,total ▸ accounted.within,fun ip => ?_⟩
  have limit := accounted.withinIP ip
  rw [table,value_add]
  split <;> omega

theorem delete_accounted_iff (inv : Inv site next) (accounted : Accounted site s) (goes : Goes s next i before after)
    (same : after.raised = before.raised) (total : next.connCount = s.connCount)
    (table : next.ipConnCount = s.ipConnCount.delete (site.clientIP i)) :
    Accounted site next ↔ s.ipConnCount.value (site.clientIP i) = 0 := by
  constructor
  · intro counted
    have own := counted.perIP (site.clientIP i)
    rw [table,value_delete,if_pos rfl,goes.raised_same same,← accounted.perIP] at own
    exact own.symm
  · intro zero
    refine accounted.goes inv goes same total.le (fun ip => ?_)
    rw [table,value_delete]
    split
    · next own => rw [own,zero]
    · rfl

theorem Inv.unused (inv : Inv site s) (absent : s.ipConnCount.entry (site.clientIP i) = none) (ip : String) :
    s.ipConnCount.entry ip ≠ some i := by
  intro entry
  rw [inv.owned ip i entry,entry] at absent
  cases absent

theorem effect_accounted_iff (inv : Inv site s) (found : Found site s) (accounted : Accounted site s)
    (effect : Effect site s label next) : Accounted site next ↔ Careful site s label := by
  have inv' := effect_inv inv effect
  cases effect with
  | accept =>
    refine iff_of_true (accounted.kept inv' (Int.le_refl _) (fun _ => rfl) (fun ip => ?_)) trivial
    show tally (s.accepted + 1) _ s.stage = tally s.accepted _ s.stage
    rw [tally_succ,inv.fresh s.accepted (Nat.le_refl _)]
    show _ + (_ && false).toNat = _
    rw [Bool.and_false]
    rfl
  | @walk label i stage crashed first start finish careful =>
    obtain ⟨_,_,raised,_⟩ := outside_idle start
    obtain ⟨_,_,raised',_⟩ := outside_idle finish
    refine iff_of_true ?_ careful
    exact accounted.goes inv' ⟨rfl,inv.inside_of_first first,rfl,rfl⟩ (raised'.trans raised.symm) (Int.le_refl _)
      (fun _ => rfl)
  | still careful => exact iff_of_true (accounted.kept inv' (Int.le_refl _) (fun _ => rfl) (fun _ => rfl)) careful
  | @insert i here | @leave i client here registered | @find i client counter here entry =>
    exact iff_of_true (accounted.goes inv' ⟨here,inv.inside here nofun,rfl,rfl⟩ rfl (Int.le_refl _) (fun _ => rfl)) trivial
  | @count i here =>
    exact count_accounted_iff inv' accounted ⟨here,inv.inside here nofun,rfl,rfl⟩ rfl rfl rfl
  | @load i here =>
    refine iff_of_true (accounted.goes inv' ⟨here,inv.inside here nofun,rfl,rfl⟩ rfl (Int.le_refl _) (fun ip => ?_))
      trivial
    exact value_loadOrStore _ _ _ _ inv.unused
  | @raise i counter here =>
    rw [raise_accounted_iff inv inv' accounted ⟨here,inv.inside here nofun,rfl,rfl⟩ rfl rfl]
    constructor
    · rintro ⟨entry,below⟩
      exact ⟨counter,here,entry,below⟩
    · rintro ⟨own,at_,entry,below⟩
      rw [here] at at_
      cases at_
      exact ⟨entry,below⟩
  | @unregistered i here absent =>
    rw [inv.registers (by rw [here]; rfl)] at absent
    cases absent
  | @uncount i client here =>
    exact iff_of_true (accounted.goes inv' ⟨here,inv.inside here nofun,rfl,rfl⟩ rfl (Int.sub_le_self _ Int.one_nonneg)
      (fun _ => rfl)) trivial
  | @lost i client here absent =>
    -- The connection is still in the count of its IP, so there is an entry.
    obtain rfl := inv.named i client (by rw [here]; rfl)
    have positive := inv.raised_pos (show (s.stage client).raised = true by rw [here]; rfl)
    have counts := accounted.perIP (site.clientIP client)
    rw [value,absent] at counts
    simp only [Option.elim_none] at counts
    omega
  | @lower i client counter stage here left =>
    have unraised : stage.raised = false := by rcases left with rfl | rfl <;> rfl
    exact iff_of_true (lower_accounted inv inv' found accounted ⟨here,inv.inside here (by rintro ⟨⟩),rfl,rfl⟩
      unraised rfl rfl) trivial
  | @delete i client here =>
    obtain rfl := inv.named i client (by rw [here]; rfl)
    exact delete_accounted_iff inv' accounted ⟨here,inv.inside here (by rintro ⟨⟩),rfl,rfl⟩ rfl rfl rfl

/-! ### Between registrations and removals -/

theorem settled_same (quiet : stage.busy = false) :
    stage.isCounted = stage.registered ∧ stage.raised = stage.registered := by
  cases stage <;> first | exact ⟨rfl,rfl⟩ | cases quiet

theorem Inv.mem_live_iff (inv : Inv site s) (i : Nat) :
    s.connections (site.session i) = some i ↔ (s.stage i).registered = true := by
  rw [inv.registry i]
  cases (s.stage i).registered <;> simp

section
variable (inv : Inv site s) (settled : Settled s)
include inv settled

theorem Inv.live_card : (s.live site).card = s.counted := by
  unfold State.live State.counted tally
  congr 1
  refine Finset.filter_congr fun i _ => ?_
  show s.connections (site.session i) = some i ↔ (s.stage i).isCounted = true
  rw [inv.mem_live_iff i,(settled_same (settled i)).1]

theorem Inv.live_from_card (ip : String) :
    ((s.live site).filter fun i => site.clientIP i = ip).card = s.raised site ip := by
  unfold State.live State.raised tally
  rw [Finset.filter_filter]
  congr 1
  refine Finset.filter_congr fun i _ => ?_
  show s.connections (site.session i) = some i ∧ _ ↔ (decide (site.clientIP i = ip) && (s.stage i).raised) = true
  rw [inv.mem_live_iff i,(settled_same (settled i)).2,Bool.and_eq_true,decide_eq_true_iff,and_comm]

theorem Inv.accounted_iff_matches : Accounted site s ↔ Matches site s := by
  have all := inv.live_card settled
  have each := inv.live_from_card settled
  constructor
  · intro accounted
    refine ⟨by rw [all,accounted.total],fun ip => by rw [each ip,accounted.perIP],?_,fun ip => ?_⟩
    · rw [all,← accounted.total]
      exact accounted.within
    · rw [each ip,← accounted.perIP]
      exact accounted.withinIP ip
  · intro matched
    refine ⟨by rw [matched.total,all],fun ip => by rw [matched.perIP,each ip],?_,fun ip => ?_⟩
    · rw [matched.total]
      exact matched.within
    · rw [matched.perIP]
      exact matched.withinIP ip

end

theorem init_accounted_iff : Accounted site init ↔ 0 ≤ site.maxConnections ∧ 0 ≤ site.maxConnectionsPerIP := by
  constructor
  · intro accounted
    exact ⟨accounted.within,accounted.withinIP ""⟩
  · rintro ⟨total,perIP⟩
    exact ⟨rfl,fun _ => rfl,total,fun _ => perIP⟩

variable {labels : List Label}

theorem always_accounted_iff (first : Accounted site init)
    (executed : run (step site) init labels = some s) :
    Always (step site) (Accounted site) init labels ↔ Meets (step site) (Careful site) init labels := by
  have any : Meets (step site) (fun _ _ => True) init labels := meets_of_mem fun _ _ _ => trivial
  have start : Inv site init ∧ Found site init := ⟨init_inv,nofun⟩
  refine always_iff_meets_of_meets (fun s label next (both : Inv site s ∧ Found site s) _ accounted careful taken => ?_)
    (fun s label next both _ accounted taken => ?_) start first any executed
  · have effect := step_effect taken
    exact ⟨effect_inv both.1 effect,effect_found both.1 both.2 accounted careful effect⟩
  · exact effect_accounted_iff both.1 both.2 accounted (step_effect taken)

theorem run_inv (executed : run (step site) init labels = some s) : Inv site s :=
  reaches_keeps (fun _ _ _ inv taken => effect_inv inv (step_effect taken)) init_inv ⟨labels,executed⟩

/-- The counts are always exact and within their limits precisely when the limits are not negative and every step is
    careful; between registrations and removals they are those of the registry. -/
theorem accounts_exact_iff (site : Site) {labels : List Label} {s : State}
    (executed : run (step site) init labels = some s) :
    (Always (step site) (Accounted site) init labels ↔
      (0 ≤ site.maxConnections ∧ 0 ≤ site.maxConnectionsPerIP) ∧ Meets (step site) (Careful site) init labels) ∧
      (Settled s → (Accounted site s ↔ Matches site s)) := by
  refine ⟨?_,(run_inv executed).accounted_iff_matches⟩
  constructor
  · intro always
    have first := always.head
    exact ⟨init_accounted_iff.mp first,(always_accounted_iff first executed).mp always⟩
  · rintro ⟨limits,meets⟩
    exact (always_accounted_iff (init_accounted_iff.mpr limits) executed).mpr meets

end

/-! ### Attempts that are not counted in time -/

def office (maxConnections maxConnectionsPerIP : Int) : Site where
  frontend := .webSocket
  maxConnections := maxConnections
  maxConnectionsPerIP := maxConnectionsPerIP
  clientIP _ := "10.0.0.1"
  session i := String.ofList (List.replicate i 's')
  distinct a b same := by
    have lists := congrArg String.toList same
    simp only [String.toList_ofList] at lists
    exact (List.replicate_inj.mp lists).1

def logIn (i : Nat) : List Label :=
  [.authenticate i (.value ()),.upgrade i true,.createSession i (.value ⟨"id","alice",0,0,60,[],{}⟩)]

def register (i : Nat) : List Label := [.insert i,.count i,.load i,.raise i]

def visit : List Label :=
  [Label.accept,.check 0] ++ logIn 0 ++ register 0 ++ [Label.leave 0,.uncount 0,.find 0,.lower 0,.delete 0]

theorem single_visit_accounted : ∃ s, run (step (office 1 1)) init visit = some s ∧
    Always (step (office 1 1)) (Accounted (office 1 1)) init visit := by
  have executed : run (step (office 1 1)) init visit = some _ := rfl
  refine ⟨_,executed,(accounts_exact_iff (office 1 1) executed).1.mpr ⟨by decide,?_⟩⟩
  iterate 6 refine (meets_cons rfl).mpr ⟨trivial,?_⟩
  refine (meets_cons rfl).mpr ⟨show (0 : Int) < 1 by decide,?_⟩
  refine (meets_cons rfl).mpr ⟨trivial,?_⟩
  refine (meets_cons rfl).mpr ⟨⟨0,rfl,rfl,by decide⟩,?_⟩
  iterate 4 refine (meets_cons rfl).mpr ⟨trivial,?_⟩
  refine (meets_cons rfl).mpr ⟨rfl,?_⟩
  trivial

def raced : List Label := [Label.accept,.accept,.check 0,.check 1] ++ logIn 0 ++ logIn 1 ++ register 0 ++ register 1

/-- A second client is counted while its address's entry is about to be deleted for the first. -/
def overlapping : List Label :=
  [Label.accept,.accept,.check 0,.check 1] ++ logIn 0 ++ logIn 1 ++ register 0 ++
    [Label.insert 1,.count 1,.leave 0,.uncount 0,.find 0,.lower 0,.load 1,.raise 1,.delete 0]

/-- Two clients checked at the same time exceed both limits, and the address of a live connection loses its count. -/
theorem limits_exceeded :
    (run (step (office 1 1)) init raced).map (fun s => (s.connCount,s.ipConnCount.value "10.0.0.1")) = some (2,2) ∧
      (run (step (office 5 5)) init overlapping).map
        (fun s => ((s.live (office 5 5)).card,s.ipConnCount.value "10.0.0.1")) = some (1,0) := by
  decide

end McpBridge.ConnectionCounts
