import McpBridge.PoolClients

/-!
Calls of the pool client that overlap (`SendRequest` with namespace routing and `ReceiveResponse` in
`gateway/pool_client.go`). A call that switches the endpoint closes one connection before it opens the next, with
responses perhaps on their way.
-/
namespace McpBridge.PoolSwitches
open Runs PoolClients PoolClient Function Option

/-- Where a call of `SendRequest` stands; all but the first and the last two are inside `SelectEndpointByTags`. -/
inductive Stage
  | route (required : List String)
  | leave (e : Nat)
  | check (e : Nat)
  | dial (e : Nat)
  | settle (e : Nat)
  | send
  | finished

def Stage.switching : Stage → Bool
  | .leave _ | .check _ | .dial _ | .settle _ => true
  | _ => false

/-- A call, with the endpoint that was current and connected when it began to select, and whether it has closed a
    connection. -/
structure Call where
  stage : Stage
  served : Option Nat := none
  closed : Bool := false

def serving (pc : PoolClient) : Option Nat := pc.currentEndpoint.filter pc.isConnected

/-- The endpoint whose connection `PoolClient.leave` closes. -/
def leaves (pc : PoolClient) (e : Nat) : Option Nat := (serving pc).filter (· ≠ e)

/-- A request is known by its call, and so is the response to it. -/
structure System where
  client : PoolClient
  calls : List Call := []
  receivers : List (Option Nat) := []
  /-- Requests that were unanswered when their connection was closed. -/
  orphans : List Nat := []
  responses : List Nat := []
  returned : List Nat := []
  /-- What was serving before and after each `SelectEndpointByTags` that failed. -/
  errors : List (Option Nat × Option Nat) := []

inductive Label
  | sendRequest (required : Option (List String))
  | advance (i : Nat) (dial : Dial) (sent : Bool)
  | answer (e request : Nat)
  | answerLate (request : Nat)
  | receiveResponse
  | receive (j : Nat)
  | report (e : Nat) (ok : Bool)
  | lose (e : Nat)

namespace System
variable (s : System)

def drop (e : Nat) : System := { s with orphans := s.orphans ++ ((s.client.connection e).map (·.asked)).getD [] }

def setCall (i : Nat) (call : Call) : System := { s with calls := s.calls.set i call }

/-- `SelectEndpointByTags` fails, and the request is sent to the current endpoint all the same. -/
def fail (i : Nat) (served : Option Nat) : System :=
  { s.setCall i { stage := .send } with errors := (served,serving s.client) :: s.errors }

def advance (i : Nat) (dial : Dial) (sent : Bool) (g : Call) : System :=
  match g.stage with
  | .route required =>
    match (s.client.getEndpointByTags required).head? with
    | none => s.fail i (serving s.client)
    | some e => s.setCall i { stage := .leave e, served := serving s.client }
  | .leave e =>
    let left := (leaves s.client e).elim s s.drop
    { left with client := s.client.leave e }.setCall i { g with stage := .check e, closed := (leaves s.client e).isSome }
  | .check e => s.setCall i { g with stage := if s.client.isConnected e then .settle e else .dial e }
  | .dial e =>
    match dial with
    | .ok => { s.drop e with client := s.client.setConnection e (some {}) }.setCall i { g with stage := .settle e }
    | .failed _ => { s.drop e with client := (s.client.connectTo e dial).1 }.fail i g.served
  | .settle e => { s with client := s.client.settle e }.setCall i { stage := .send }
  | .send =>
    match s.client.currentEndpoint with
    | none => s.setCall i { stage := .finished }
    | some c =>
      match s.client.connection c, sent with
      | some conn,true =>
        { s with client := s.client.setConnection c (some { conn with asked := conn.asked ++ [i] }) }.setCall i
          { stage := .finished }
      | _,_ => { s with client := s.client.updateHealth c false }.setCall i { stage := .finished }
  | .finished => s

/-- One step of a call, a reader or the gateway. -/
def step (s : System) : Label → Option System
  | .sendRequest required =>
    some { s with calls := s.calls ++ [{ stage := (required.map Stage.route).getD .send }] }
  | .advance i dial sent => s.calls[i]?.map (s.advance i dial sent)
  | .answer e request =>
    match s.client.connection e with
    | some conn =>
      if request ∈ conn.asked then
        some { s with
          client := s.client.setConnection e (some ⟨conn.asked.erase request,conn.answered ++ [request]⟩)
          responses := request :: s.responses }
      else none
    | none => none
  | .answerLate request =>
    if request ∈ s.orphans then
      some { s with orphans := s.orphans.erase request, responses := request :: s.responses }
    else none
  | .receiveResponse => some { s with receivers := s.receivers ++ [s.client.currentEndpoint] }
  | .receive j =>
    match s.receivers[j]? with
    | some (some e) =>
      match s.client.connection e with
      | none => some { s with client := s.client.updateHealth e false, receivers := s.receivers.set j none }
      | some ⟨_,[]⟩ => none
      | some ⟨asked,response :: rest⟩ =>
        some { s with
          client := s.client.setConnection e (some ⟨asked,rest⟩)
          receivers := s.receivers.set j none
          returned := response :: s.returned }
    | _ => none
  | .report e ok => some { s with client := s.client.updateHealth e ok }
  | .lose e => some { s.drop e with client := s.client.setConnection e none }

end System

/-- A failed `SelectEndpointByTags` leaves the serving endpoint in place, and a response that was sent is returned or
    there for the next `ReceiveResponse`. -/
structure Kept (s : System) : Prop where
  errors : ∀ e after, (some e,after) ∈ s.errors → after = some e
  responses : ∀ r ∈ s.responses, r ∈ s.returned ∨
    ∃ e conn, s.client.currentEndpoint = some e ∧ s.client.connection e = some conn ∧ r ∈ conn.answered

/-- Nothing is under way on the endpoint's connection. -/
def Quiet (pc : PoolClient) (e : Nat) : Prop := ∀ conn, pc.connection e = some conn → conn = {}

def Alone (s : System) (i : Nat) : Prop := ∀ j h, s.calls[j]? = some h → j ≠ i → h.stage.switching = false

/-- Calls select endpoints one at a time, close a connection only when nothing is under way on it, and then find an
    endpoint that accepts them; no connection is lost with something under way or while a call selects. -/
def Gentle (s : System) : Label → Prop
  | .advance i dial _ => ∀ g, s.calls[i]? = some g →
      match g.stage with
      | .route _ | .check _ | .settle _ => Alone s i
      | .leave e => Alone s i ∧ ∀ c, leaves s.client e = some c → Quiet s.client c
      | .dial _ => Alone s i ∧ (g.closed = true → dial = .ok)
      | _ => True
  | .lose e => Quiet s.client e ∧ ∀ h ∈ s.calls, h.stage.switching = false
  | _ => True

section
variable {pc : PoolClient} {e : Nat} {g : Call} {conn conn' : Connection}

theorem serving_eq_some {c : Nat} : serving pc = some c ↔ pc.currentEndpoint = some c ∧ pc.isConnected c = true := by
  simp [serving,filter_eq_some_iff]

theorem leave_eq (pc : PoolClient) (e : Nat) :
    pc.leave e = (leaves pc e).elim pc fun c => (pc.setConnection c none).addConnections c (-1) := by
  unfold leave leaves serving
  cases current : pc.currentEndpoint with
  | none => rfl
  | some c => by_cases connected : pc.isConnected c = true <;> by_cases other : c = e <;> simp_all [filter_some]

/-- Nothing else is serving once a call that selects has left the current endpoint. -/
def Fits (pc : PoolClient) (g : Call) : Prop :=
  match g.stage with
  | .leave _ => g.closed = false ∧ serving pc = g.served
  | .check e => (g.closed = false → serving pc = g.served) ∧ ∀ c, serving pc = some c → c = e
  | .dial e => (g.closed = false → serving pc = g.served) ∧ (∀ c, serving pc = some c → c = e) ∧ pc.isConnected e = false
  | .settle e => ∀ c, serving pc = some c → c = e
  | _ => True

/-- Nothing is under way but on the current endpoint's connection, and every response sent is there or was returned. -/
structure Flows (pc : PoolClient) (responses returned : List Nat) : Prop where
  busy : ∀ e conn, pc.connection e = some conn → conn ≠ {} → pc.currentEndpoint = some e
  held : ∀ r ∈ responses, r ∈ returned ∨ ∃ e conn, pc.connection e = some conn ∧ r ∈ conn.answered

structure Safe (s : System) : Prop extends Flows s.client s.responses s.returned where
  fits : ∀ g ∈ s.calls, Fits s.client g
  orphans : s.orphans = []
  errors : ∀ e after, (some e,after) ∈ s.errors → after = some e

theorem Safe.kept {s : System} (safe : Safe s) : Kept s := by
  refine ⟨safe.errors,fun r sent => ?_⟩
  rcases safe.held r sent with returned | ⟨e,conn,open_,there⟩
  · exact .inl returned
  · have busy : conn ≠ {} := by
      rintro rfl
      simp at there
    exact .inr ⟨e,conn,safe.busy e conn open_ busy,open_,there⟩

theorem fits_of_idle (idle : g.stage.switching = false) : Fits pc g := by
  obtain ⟨stage,served,closed⟩ := g
  cases stage <;> trivial

/-- A call takes the place of one that selected alone. -/
theorem fits_set {s : System} {i : Nat} (alone : Alone s i) (fit : Fits pc g) :
    ∀ h ∈ s.calls.set i g, Fits pc h := by
  intro h member
  obtain ⟨j,at_⟩ := List.mem_iff_getElem?.mp member
  rw [List.getElem?_set] at at_
  split at at_
  · split at at_ <;> cases at_
    exact fit
  · next other => exact fits_of_idle (alone j h at_ (Ne.symm other))

/-- What is under way on a connection changes, and the endpoint and the open connections do not. -/
theorem fits_setConnection (open_ : pc.connection e = some conn) (fits : Fits pc g) :
    Fits (pc.setConnection e (some conn')) g := by
  have connected : (pc.setConnection e (some conn')).isConnected = pc.isConnected := by
    funext x
    by_cases same : x = e
    · simp [same,isConnected,PoolClient.setConnection,open_]
    · simp [isConnected,PoolClient.setConnection,update_of_ne same]
  have served : serving (pc.setConnection e (some conn')) = serving pc := by
    rw [serving,connected]
    rfl
  simpa [Fits,connected,served] using fits

variable {responses returned : List Nat}

theorem Flows.reset (flows : Flows pc responses returned) (quiet : Quiet pc e) {connection : Option Connection}
    (empty : ∀ conn, connection = some conn → conn = {}) : Flows (pc.setConnection e connection) responses returned := by
  constructor
  · intro x conn open_ busy
    simp only [PoolClient.setConnection] at open_
    by_cases same : x = e
    · rw [same,update_self] at open_
      exact absurd (empty conn open_) busy
    · rw [update_of_ne same] at open_
      exact flows.busy x conn open_ busy
  · intro r sent
    rcases flows.held r sent with before | ⟨x,conn,open_,there⟩
    · exact .inl before
    · have other : x ≠ e := by
        rintro rfl
        rw [quiet conn open_] at there
        simp at there
      exact .inr ⟨x,conn,by simpa [PoolClient.setConnection,update_of_ne other] using open_,there⟩

theorem Flows.setConnection {responses' returned' : List Nat}
    (flows : Flows pc responses returned) (open_ : pc.connection e = some conn) (current : pc.currentEndpoint = some e)
    (sent : ∀ r ∈ responses', r ∈ responses ∨ r ∈ conn'.answered)
    (moved : ∀ r ∈ conn.answered, r ∈ returned' ∨ r ∈ conn'.answered) (more : ∀ r ∈ returned, r ∈ returned') :
    Flows (pc.setConnection e (some conn')) responses' returned' := by
  have here : (pc.setConnection e (some conn')).connection e = some conn' := update_self ..
  constructor
  · intro x other open' busy
    by_cases same : x = e
    · rw [same]
      exact current
    · simp only [PoolClient.setConnection,update_of_ne same] at open'
      exact flows.busy x other open' busy
  · intro r member
    rcases sent r member with before | there
    · rcases flows.held r before with back | ⟨x,other,open',there⟩
      · exact .inl (more r back)
      · by_cases same : x = e
        · subst same
          cases open_.symm.trans open'
          exact (moved r there).imp id fun there => ⟨x,conn',here,there⟩
        · exact .inr ⟨x,other,by simpa [PoolClient.setConnection,update_of_ne same] using open',there⟩
    · exact .inr ⟨e,conn',here,there⟩

variable {s next : System}

theorem drop_orphans (safe : Safe s) (quiet : Quiet s.client e) : (s.drop e).orphans = [] := by
  have none_asked : ((s.client.connection e).map (·.asked)).getD [] = [] := by
    cases open_ : s.client.connection e with
    | none => rfl
    | some conn => simp [quiet conn open_]
  simp only [System.drop,safe.orphans,none_asked]
  rfl

section
variable {i : Nat} {d : Dial} {sent : Bool} {served : Option Nat} {closed : Bool}

theorem Safe.leave (safe : Safe s) (alone : Alone s i) (fits : Fits s.client ⟨.leave e,served,closed⟩)
    (quiet : ∀ c, leaves s.client e = some c → Quiet s.client c) : Safe (s.advance i d sent ⟨.leave e,served,closed⟩) := by
  simp [System.advance,leave_eq]
  cases leaving : leaves s.client e with
  | none =>
    refine ⟨safe.toFlows,fits_set alone ⟨fun _ => fits.2,fun c serves => ?_⟩,safe.orphans,safe.errors⟩
    have serves' : serving s.client = some c := serves
    simpa [leaves,serves',filter_some] using leaving
  | some c =>
    have current : serving s.client = some c := (filter_eq_some_iff.mp leaving).1
    have flows : Flows (s.client.setConnection c none) s.responses s.returned := safe.toFlows.reset (quiet c leaving) nofun
    refine ⟨⟨flows.busy,flows.held⟩,fits_set alone ⟨nofun,fun x serves => ?_⟩,drop_orphans safe (quiet c leaving),safe.errors⟩
    obtain ⟨now,connected⟩ := serving_eq_some.mp serves
    have same : x = c := some.inj (now.symm.trans (serving_eq_some.mp current).1)
    have open_ : (s.client.setConnection c none).isConnected x = true := connected
    simp [same,isConnected,PoolClient.setConnection] at open_

theorem Safe.dial (safe : Safe s) (alone : Alone s i) (fits : Fits s.client ⟨.dial e,served,closed⟩)
    (accepted : closed = true → d = .ok) : Safe (s.advance i d sent ⟨.dial e,served,closed⟩) := by
  obtain ⟨unclosed,only_,down⟩ := fits
  have quiet : Quiet s.client e := by
    intro conn open_
    simp [isConnected,open_] at down
  cases d with
  | ok =>
    refine ⟨safe.toFlows.reset quiet ?_,fits_set alone fun c serves => ?_,drop_orphans safe quiet,safe.errors⟩
    · rintro conn ⟨⟩
      rfl
    · by_cases same : c = e
      · exact same
      · obtain ⟨now,connected⟩ := serving_eq_some.mp serves
        have open_ : (s.client.setConnection e (some {})).isConnected c = true := connected
        simp only [isConnected,PoolClient.setConnection,update_of_ne same] at open_
        exact only_ c (serving_eq_some.mpr ⟨now,open_⟩)
  | failed connected =>
    have flows : Flows (s.client.setConnection e (if connected then some {} else none)) s.responses s.returned := by
      refine safe.toFlows.reset quiet fun conn open_ => ?_
      cases connected <;> cases open_
      rfl
    refine ⟨⟨flows.busy,flows.held⟩,fits_set alone trivial,drop_orphans safe quiet,fun b after member => ?_⟩
    · rcases List.mem_cons.mp member with same | before
      · cases same
        -- the endpoint that was serving cannot be the one to connect to, so that it was closed
        cases closed with
        | true => cases accepted rfl
        | false =>
          have serves : serving s.client = some b := unclosed rfl
          rw [← only_ b serves,(serving_eq_some.mp serves).2] at down
          cases down
      · exact safe.errors b after before

theorem Safe.settle (safe : Safe s) (alone : Alone s i) (fits : Fits s.client ⟨.settle e,served,closed⟩) :
    Safe (s.advance i d sent ⟨.settle e,served,closed⟩) := by
  refine ⟨⟨fun x conn open_ busy => ?_,safe.held⟩,fits_set alone trivial,safe.orphans,safe.errors⟩
  have current : s.client.currentEndpoint = some x := safe.busy x conn open_ busy
  have connected : s.client.isConnected x = true := by
    have open' : s.client.connection x = some conn := open_
    simp [isConnected,open']
  exact congrArg some (fits x (serving_eq_some.mpr ⟨current,connected⟩)).symm

theorem Safe.send (safe : Safe s) : Safe (s.advance i d sent ⟨.send,served,closed⟩) := by
  have set_ : ∀ pc, (∀ g ∈ s.calls, Fits pc g) → ∀ h ∈ s.calls.set i { stage := .finished }, Fits pc h := by
    intro pc fits h member
    rcases List.mem_or_eq_of_mem_set member with old | rfl
    · exact fits h old
    · trivial
  unfold System.advance
  simp only
  split
  · exact ⟨safe.toFlows,set_ _ safe.fits,safe.orphans,safe.errors⟩
  · next c current =>
    split
    · next conn open_ =>
      refine ⟨safe.toFlows.setConnection open_ current (fun r sent => .inl sent) (fun r there => .inr there)
        (fun r back => back),set_ _ fun g member => fits_setConnection open_ (safe.fits g member),safe.orphans,safe.errors⟩
    · exact ⟨⟨safe.busy,safe.held⟩,set_ _ safe.fits,safe.orphans,safe.errors⟩

theorem Safe.advance (safe : Safe s) (held : s.calls[i]? = some g) (gentle : Gentle s (.advance i d sent)) :
    Safe (s.advance i d sent g) := by
  have fits : Fits s.client g := safe.fits g (List.mem_of_getElem? held)
  have condition := gentle g held
  obtain ⟨stage,served,closed⟩ := g
  cases stage with
  | route required =>
    unfold System.advance
    simp only
    split
    · refine ⟨safe.toFlows,fits_set condition trivial,safe.orphans,fun e after member => ?_⟩
      rcases List.mem_cons.mp member with same | before
      · obtain ⟨served,after_⟩ := Prod.mk.inj same
        exact after_.trans served.symm
      · exact safe.errors e after before
    · exact ⟨safe.toFlows,fits_set condition ⟨rfl,rfl⟩,safe.orphans,safe.errors⟩
  | leave e => exact safe.leave condition.1 fits condition.2
  | check e =>
    refine ⟨safe.toFlows,fits_set condition ?_,safe.orphans,safe.errors⟩
    cases connected : s.client.isConnected e with
    | true => exact fits.2
    | false => exact ⟨fits.1,fits.2,connected⟩
  | dial e => exact safe.dial condition.1 fits condition.2
  | settle e => exact safe.settle condition fits
  | send => exact safe.send
  | finished => exact safe

end

theorem Safe.step {label : Label} (safe : Safe s) (gentle : Gentle s label) (taken : s.step label = some next) : Safe next := by
  revert taken
  fun_cases System.step s label <;> intro taken
  case case2 i dial sent =>
    obtain ⟨g,held,rfl⟩ := map_eq_some_iff.mp taken
    exact safe.advance held gentle
  all_goals cases taken
  case case1 required =>
    refine ⟨safe.toFlows,fun g member => ?_,safe.orphans,safe.errors⟩
    rcases List.mem_append.mp member with old | new
    · exact safe.fits g old
    · simp only [List.mem_singleton] at new
      subst new
      cases required <;> trivial
  case case3 e request conn open_ asked =>
    have busy : conn ≠ {} := by
      rintro rfl
      simp at asked
    refine ⟨safe.toFlows.setConnection open_ (safe.busy e conn open_ busy) ?_ (fun r there => ?_) (fun r back => back),
      fun g member => fits_setConnection open_ (safe.fits g member),safe.orphans,safe.errors⟩
    · intro r sent
      rcases List.mem_cons.mp sent with rfl | before
      · exact .inr (by simp)
      · exact .inl before
    · exact .inr (List.mem_append_left _ there)
  case case6 late =>
    rw [safe.orphans] at late
    cases late
  case case8 | case9 | case13 => exact ⟨⟨safe.busy,safe.held⟩,safe.fits,safe.orphans,safe.errors⟩
  case case11 e _ asked response rest open_ =>
    refine ⟨safe.toFlows.setConnection open_ (safe.busy e _ open_ (by simp)) (fun r sent => .inl sent) ?_
      (fun r back => .tail _ back),fun g member => fits_setConnection open_ (safe.fits g member),safe.orphans,safe.errors⟩
    intro r there
    rcases List.mem_cons.mp there with rfl | later
    · exact .inl (.head _)
    · exact .inr later
  case case14 e =>
    exact ⟨safe.toFlows.reset gentle.1 nofun,fun g member => fits_of_idle (gentle.2 g member),
      drop_orphans safe gentle.1,safe.errors⟩

end

def connected : PoolClient :=
  { pool := two, tags := tagged, connection := fun e => if e = 0 then some {} else none, currentEndpoint := some 0 }

end McpBridge.PoolSwitches
