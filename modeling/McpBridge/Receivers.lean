import McpBridge.GatewayBreaker
import McpBridge.Values

/-!
`receiveResponseWithTimeout` of the message router and the goroutines that it leaves behind. A call starts a goroutine
that asks the gateway client for a response, and waits for the goroutine's channel or the end of its context.
-/
namespace McpBridge.Receivers
open Values Runs List Option Function
open GatewayBreaker (CircuitBreaker CircuitBreakerConfig)

abbrev Result := Except String Response

inductive Via where
  | direct
  | breaker

inductive Inner where
  | reading
  | done (result : Result)

inductive Reader where
  | calling
  | reading
  | guarded (inner : Inner)
  | holding (result : Result)
  | sent (result : Result)
  | finished

structure Call where
  via : Via
  reader : Reader := .calling
  /-- The context of the call is over: by its deadline, or by a cancellation. -/
  ended : Option Bool := none

/-- The breaker, the calls and the gateway's responses. -/
structure State where
  breaker : CircuitBreaker := {}
  now : Int := 0
  calls : Nat → Option Call := fun _ => none
  begun : Nat := 0
  current : Option Nat := none
  orphans : Nat := 0
  yielded : List Response := []
  returns : List (Nat × Result) := []

inductive Move where
  | enter
  | yields (result : Result)
  | done
  | guardExpires
  | send
  | discard

inductive Label where
  | call (via : Via)
  | reader (call : Nat) (move : Move)
  | orphan (result : Result)
  | expire (call : Nat) (deadline : Bool)
  | receive
  | timeout
  | tick (duration : Nat)
  | traffic (ok : Bool)

def responses : Result → List Response
  | .ok response => [response]
  | .error _ => []

namespace State

def setReader (k : Nat) (c : Call) (reader : Reader) (s : State) : State :=
  { s with calls := update s.calls k (some { c with reader := reader }) }

def record (cfg : CircuitBreakerConfig) (ok : Bool) (s : State) : State :=
  { s with breaker := if ok then s.breaker.recordSuccess cfg s.now else s.breaker.recordFailure cfg s.now }

def stepReader (cfg : CircuitBreakerConfig) (k : Nat) (c : Call) (s : State) : Move → Option State
  | .enter =>
    match c.reader,c.via with
    | .calling,.direct => some (s.setReader k c .reading)
    | .calling,.breaker =>
      if s.breaker.allowRequest cfg s.now then some (s.setReader k c (.guarded .reading))
      else some ((s.record cfg false).setReader k c
        (.holding (.error "circuit breaker is OPEN, rejecting ReceiveResponse request")))
    | _,_ => none
  | .yields result =>
    match c.reader with
    | .reading => some ({ s with yielded := s.yielded ++ responses result }.setReader k c (.holding result))
    | .guarded .reading =>
      some ({ s with yielded := s.yielded ++ responses result }.setReader k c (.guarded (.done result)))
    | _ => none
  | .done =>
    match c.reader with
    | .guarded (.done result) => some ((s.record cfg result.isOk).setReader k c (.holding result))
    | _ => none
  | .guardExpires =>
    match c.reader with
    | .guarded inner =>
      -- A result that is already in `done` stays there; a read that goes on is an orphan.
      let orphans := match inner with
        | .reading => s.orphans + 1
        | .done _ => s.orphans
      some (({ s with orphans := orphans }.record cfg false).setReader k c
        (.holding (.error "ReceiveResponse request timed out: context deadline exceeded")))
    | _ => none
  | .send =>
    match c.reader with
    | .holding result => some (s.setReader k c (.sent result))
    | _ => none
  | .discard =>
    match c.reader,c.ended with
    | .holding _,some _ => some (s.setReader k c .finished)
    | _,_ => none

/-- The call returns; the deferred `cancel` ends its context. -/
def finish (k : Nat) (c : Call) (reader : Reader) (result : Result) (s : State) : State :=
  { s with
    calls := update s.calls k (some { c with reader := reader, ended := some (c.ended.getD false) })
    current := none
    returns := s.returns ++ [(k,result)] }

def overError (deadline : Bool) : String := if deadline then "receive timeout" else "context canceled"

end State

/-- One step of a caller, a reader or the clock. -/
def step (cfg : CircuitBreakerConfig) (s : State) : Label → Option State
  | .call via =>
    match s.current with
    | none =>
      some { s with
        calls := update s.calls s.begun (some { via := via })
        begun := s.begun + 1
        current := some s.begun }
    | some _ => none
  | .reader k move => (s.calls k).bind fun c => s.stepReader cfg k c move
  | .orphan result =>
    if s.orphans = 0 then none
    else some { s with orphans := s.orphans - 1, yielded := s.yielded ++ responses result }
  | .expire k deadline =>
    (s.calls k).bind fun c =>
      if c.ended.isSome then none
      else some { s with calls := update s.calls k (some { c with ended := some deadline }) }
  | .receive =>
    s.current.bind fun k => (s.calls k).bind fun c =>
      match c.reader with
      | .sent result => some (s.finish k c .finished result)
      | _ => none
  | .timeout =>
    s.current.bind fun k => (s.calls k).bind fun c =>
      match c.ended with
      | some deadline => some (s.finish k c c.reader (.error (State.overError deadline)))
      | none => none
  | .tick duration => some { s with now := s.now + duration }
  | .traffic ok => some (s.record cfg ok)

def Reader.response : Reader → List Response
  | .guarded (.done result) => responses result
  | .holding result => responses result
  | .sent result => responses result
  | _ => []

def State.transit (s : State) : List Response :=
  match s.current with
  | none => []
  | some k =>
    match s.calls k with
    | none => []
    | some c => c.reader.response

def State.returned (s : State) : List Response := s.returns.flatMap fun entry => responses entry.2

def State.flow (s : State) : List Response := s.returned ++ s.transit

theorem transit_setReader (s : State) (k : Nat) (c : Call) (reader : Reader) :
    (s.setReader k c reader).transit = if s.current = some k then reader.response else s.transit := by
  by_cases here : s.current = some k
  · simp [State.transit,State.setReader,here]
  · rw [if_neg here]
    unfold State.transit State.setReader
    cases current : s.current with
    | none => rfl
    | some j =>
      have other : j ≠ k := fun same => here (by rw [current,same])
      simp only [update_of_ne other]

variable {s : State} {k : Nat} {c : Call}

theorem transit_eq (here : s.current = some k) (found : s.calls k = some c) : s.transit = c.reader.response := by
  simp [State.transit,here,found]

/-- No read ends with a response for a call that has returned or a breaker that has given up, and no context ends while
    the response of the call is under way. -/
def Fine (s : State) : Label → Prop
  | .reader k (.yields (.ok _)) => s.current = some k
  | .reader k .guardExpires => s.current = some k → s.transit = []
  | .reader k .discard => s.current = some k → s.transit = []
  | .orphan (.ok _) => False
  | .timeout => s.transit = []
  | _ => True

inductive Effect (s next : State) : Prop → Prop
  | passes (extra : List Response) (yielded : next.yielded = s.yielded ++ extra) (flow : next.flow = s.flow ++ extra) :
      Effect s next True
  | swallows (lost : Response) (yielded : next.yielded = s.yielded ++ [lost]) (flow : next.flow = s.flow) :
      Effect s next False
  | drops (lost : Response) (yielded : next.yielded = s.yielded) (flow : s.flow = next.flow ++ [lost]) :
      Effect s next False

variable {next : State}

theorem Effect.same (yielded : next.yielded = s.yielded) (flow : next.flow = s.flow) : Effect s next True :=
  .passes [] (by rw [yielded,append_nil]) (by rw [flow,append_nil])

theorem responses_length (result : Result) : (responses result).length ≤ 1 := by
  cases result <;> simp [responses]

theorem response_length (reader : Reader) : reader.response.length ≤ 1 := by
  cases reader with
  | guarded inner =>
    cases inner with
    | reading => exact Nat.zero_le 1
    | done result => exact responses_length result
  | holding result | sent result => exact responses_length result
  | _ => exact Nat.zero_le 1

theorem transit_length (s : State) : s.transit.length ≤ 1 := by
  unfold State.transit
  split
  · exact Nat.zero_le 1
  · split
    · exact Nat.zero_le 1
    · exact response_length _

theorem Effect.clears (yielded : next.yielded = s.yielded) (flow : next.flow = s.returned) :
    Effect s next (s.transit = []) := by
  have short := transit_length s
  cases held : s.transit with
  | nil =>
    rw [eq_self_iff_true]
    refine .same yielded ?_
    rw [flow,State.flow,held,append_nil]
  | cons lost rest =>
    have bare : rest = [] := by
      rw [held,length_cons] at short
      exact length_eq_zero_iff.mp (by omega)
    subst bare
    have missed : ([lost] = []) = False := by simp
    rw [missed]
    refine .drops lost yielded ?_
    rw [flow,State.flow,held]

variable {reader : Reader}

theorem setReader_same (found : s.calls k = some c)
    (same : reader.response = c.reader.response) (c' : Call) (cb : CircuitBreaker) (orphans : Nat) :
    Effect s ({ s with breaker := cb, orphans := orphans }.setReader k c' reader) True := by
  refine .same rfl ?_
  have transit := transit_setReader { s with breaker := cb, orphans := orphans } k c' reader
  have kept : ({ s with breaker := cb, orphans := orphans }.setReader k c' reader).transit = s.transit := by
    rw [transit]
    split
    next here =>
      have held : s.transit = c.reader.response := transit_eq here found
      rw [same,held]
    next => rfl
  exact congrArg (s.returned ++ ·) kept

theorem setReader_loses (s : State) (k : Nat) (c : Call) (nothing : reader.response = [])
    (cb : CircuitBreaker) (orphans : Nat) : Effect s ({ s with breaker := cb, orphans := orphans }.setReader k c reader)
      (s.current = some k → s.transit = []) := by
  have transit := transit_setReader { s with breaker := cb, orphans := orphans } k c reader
  by_cases here : s.current = some k
  · rw [if_pos here,nothing] at transit
    have fine : (s.current = some k → s.transit = []) = (s.transit = []) := by simp [here]
    rw [fine]
    refine .clears rfl ?_
    rw [State.flow,transit,append_nil]
    rfl
  · rw [if_neg here] at transit
    have fine : (s.current = some k → s.transit = []) = True := by simp [here]
    rw [fine]
    exact .same rfl (congrArg (s.returned ++ ·) transit)

/-- The underlying client completes a read that a goroutine waits for. -/
theorem yields_effect (found : s.calls k = some c) {result : Result}
    (before : c.reader.response = []) (after : reader.response = responses result) :
    Effect s ({ s with yielded := s.yielded ++ responses result }.setReader k c reader)
      (Fine s (.reader k (.yields result))) := by
  have transit := transit_setReader { s with yielded := s.yielded ++ responses result } k c reader
  by_cases here : s.current = some k
  · rw [if_pos here,after] at transit
    have fine : Fine s (.reader k (.yields result)) = True := by
      cases result <;> simp [Fine,here]
    rw [fine]
    refine .passes (responses result) rfl ?_
    rw [State.flow,State.flow,transit,transit_eq here found,before,append_nil]
    rfl
  · rw [if_neg here] at transit
    have flow : ({ s with yielded := s.yielded ++ responses result }.setReader k c reader).flow = s.flow := by
      rw [State.flow,State.flow,transit]
      rfl
    cases result with
    | error err =>
      exact .same (append_nil _) flow
    | ok response =>
      have fine : Fine s (.reader k (.yields (.ok response))) = False := by simp [Fine,here]
      rw [fine]
      exact .swallows response rfl flow

variable {cfg : CircuitBreakerConfig} {label : Label} {move : Move} {fine : Prop}

theorem stepReader_effect (found : s.calls k = some c) (moved : s.stepReader cfg k c move = some next) :
    Effect s next (Fine s (.reader k move)) := by
  revert moved
  fun_cases State.stepReader cfg k c s move <;> rintro ⟨⟩
  case case1 stands | case2 stands _ => exact setReader_same found (by rw [stands]; rfl) c s.breaker s.orphans
  case case3 stands _ => exact setReader_same found (by rw [stands]; rfl) c _ s.orphans
  case case5 stands | case6 stands => exact yields_effect found (by rw [stands]; rfl) rfl
  case case8 stands => exact setReader_same found (by rw [stands]; rfl) c _ s.orphans
  case case10 => exact setReader_loses s k c rfl _ _
  case case12 stands => exact setReader_same found (by rw [stands]; rfl) c s.breaker s.orphans
  case case14 => exact setReader_loses s k c rfl s.breaker s.orphans

theorem finish_flow (s : State) (k : Nat) (c : Call) (reader : Reader) (result : Result) :
    (s.finish k c reader result).flow = s.returned ++ responses result := by
  simp [State.flow,State.returned,State.transit,State.finish]

theorem step_effect (taken : step cfg s label = some next) : Effect s next (Fine s label) := by
  revert taken
  fun_cases step cfg s label <;> intro taken
  case case3 k move =>
    obtain ⟨c,found,moved⟩ := bind_eq_some_iff.mp taken
    exact stepReader_effect found moved
  case case6 k deadline =>
    obtain ⟨c,found,moved⟩ := bind_eq_some_iff.mp taken
    obtain ⟨-,⟨⟩⟩ := ite_none_left_eq_some.mp moved
    exact setReader_same found rfl { c with ended := some deadline } s.breaker s.orphans
  case case7 =>
    obtain ⟨k,here,rest⟩ := bind_eq_some_iff.mp taken
    obtain ⟨c,found,moved⟩ := bind_eq_some_iff.mp rest
    split at moved <;> cases moved
    next result stands =>
      refine .same rfl ?_
      rw [finish_flow,State.flow,transit_eq here found,stands]
      rfl
  case case8 =>
    obtain ⟨k,here,rest⟩ := bind_eq_some_iff.mp taken
    obtain ⟨c,found,moved⟩ := bind_eq_some_iff.mp rest
    split at moved <;> cases moved
    refine .clears rfl ?_
    rw [finish_flow]
    exact append_nil _
  all_goals cases taken
  case case1 idle =>
    refine .same rfl ?_
    simp [State.flow,State.returned,State.transit,idle,Reader.response]
  case case5 result _ =>
    cases result with
    | ok response =>
      exact .swallows response rfl rfl
    | error err => exact .same (append_nil _) rfl
  case case9 | case10 => exact .same rfl rfl

/-- Every response yielded by the client was returned or is under way to the call that has not returned, in order. -/
def Kept (s : State) : Prop := s.yielded = s.returned ++ s.transit

theorem Effect.sublist (effect : Effect s next fine) (part : s.flow.Sublist s.yielded) :
    next.flow.Sublist next.yielded := by
  cases effect with
  | passes extra yielded flow =>
    rw [yielded,flow]
    exact part.append_right extra
  | swallows lost yielded flow =>
    rw [yielded,flow]
    exact part.trans (sublist_append_left _ _)
  | drops lost yielded flow =>
    rw [yielded]
    rw [flow] at part
    exact (sublist_append_left _ _).trans part

theorem Effect.kept_iff (effect : Effect s next fine)
    (part : s.flow.Sublist s.yielded) : Kept next ↔ Kept s ∧ fine := by
  have few := part.length_le
  cases effect with
  | passes extra yielded flow =>
    have same : Kept next ↔ s.yielded ++ extra = s.flow ++ extra := by
      rw [← yielded,← flow]
      rfl
    rw [same,append_left_inj,and_true]
    rfl
  | swallows lost yielded flow =>
    refine iff_of_false (fun kept => ?_) (fun both => both.2)
    have lengths : next.yielded.length = next.flow.length := congrArg length kept
    rw [yielded,flow,length_append,length_singleton] at lengths
    omega
  | drops lost yielded flow =>
    refine iff_of_false (fun kept => ?_) (fun both => both.2)
    have lengths : next.yielded.length = next.flow.length := congrArg length kept
    rw [flow,length_append,length_singleton] at few
    rw [yielded] at lengths
    omega

structure Numbered (s : State) : Prop where
  once : (s.returns.map Prod.fst).Nodup
  before : ∀ k ∈ s.returns.map Prod.fst, k < s.begun
  waiting : ∀ k, s.current = some k → k < s.begun ∧ k ∉ s.returns.map Prod.fst

theorem Numbered.finish {s : State} (numbered : Numbered s) {k : Nat} (here : s.current = some k) (c : Call)
    (reader : Reader) (result : Result) : Numbered (s.finish k c reader result) := by
  obtain ⟨small,fresh⟩ := numbered.waiting k here
  have entries : (s.finish k c reader result).returns.map Prod.fst = s.returns.map Prod.fst ++ [k] := by
    simp [State.finish]
  refine ⟨?_,?_,nofun⟩
  · rw [entries,nodup_append]
    refine ⟨numbered.once,by simp,?_⟩
    intro j member i last same
    rw [mem_singleton] at last
    rw [same,last] at member
    exact fresh member
  · intro j member
    rw [entries,mem_append,mem_singleton] at member
    obtain older | rfl := member
    · exact numbered.before j older
    · exact small

theorem stepReader_frame (moved : s.stepReader cfg k c move = some next) :
    next.returns = s.returns ∧ next.begun = s.begun ∧ next.current = s.current := by
  cases move <;> simp only [State.stepReader] at moved <;> split at moved <;> try split at moved
  all_goals cases moved
  all_goals exact ⟨rfl,rfl,rfl⟩

theorem step_numbered (numbered : Numbered s)
    (taken : step cfg s label = some next) : Numbered next := by
  revert taken
  fun_cases step cfg s label <;> intro taken
  case case3 k move =>
    obtain ⟨c,_,moved⟩ := bind_eq_some_iff.mp taken
    obtain ⟨returns,begun,current⟩ := stepReader_frame moved
    exact ⟨by rw [returns]; exact numbered.once,by rw [returns,begun]; exact numbered.before,
      by rw [returns,begun,current]; exact numbered.waiting⟩
  case case6 =>
    obtain ⟨c,_,moved⟩ := bind_eq_some_iff.mp taken
    obtain ⟨-,⟨⟩⟩ := ite_none_left_eq_some.mp moved
    exact ⟨numbered.once,numbered.before,numbered.waiting⟩
  case case7 | case8 =>
    obtain ⟨k,here,rest⟩ := bind_eq_some_iff.mp taken
    obtain ⟨c,_,moved⟩ := bind_eq_some_iff.mp rest
    split at moved <;> cases moved
    exact numbered.finish here c _ _
  all_goals cases taken
  case case1 =>
    refine ⟨numbered.once,fun k member => Nat.lt_succ_of_lt (numbered.before k member),?_⟩
    rintro k ⟨⟩
    exact ⟨Nat.lt_succ_self _,fun member => Nat.lt_irrefl _ (numbered.before _ member)⟩
  case case5 | case9 | case10 => exact ⟨numbered.once,numbered.before,numbered.waiting⟩

/-- No call returns twice, and the responses yielded are those returned, in order, and the one under way, precisely when
    every step is fine. -/
theorem no_response_swallowed_iff (cfg : CircuitBreakerConfig) (cb : CircuitBreaker) {labels : List Label} {t : State}
    (executed : run (step cfg) { breaker := cb } labels = some t) :
    (t.returns.map Prod.fst).Nodup ∧
      (t.yielded = t.returned ++ t.transit ↔ Meets (step cfg) Fine { breaker := cb } labels) := by
  constructor
  · have numbered : Numbered t := reaches_keeps (fun _ _ _ => step_numbered)
      (show Numbered { breaker := cb } from ⟨nodup_nil,nofun,nofun⟩) ⟨labels,executed⟩
    exact numbered.once
  · have part : ∀ s label next, s.flow.Sublist s.yielded → step cfg s label = some next →
        next.flow.Sublist next.yielded := fun s label next part taken => (step_effect taken).sublist part
    have breaks : ∀ s label next, s.flow.Sublist s.yielded → step cfg s label = some next →
        (Kept next ↔ Kept s ∧ Fine s label) := fun s label next part taken => (step_effect taken).kept_iff part
    have safe : Kept t ↔ Kept { breaker := cb } ∧ Meets (step cfg) Fine { breaker := cb } labels :=
      run_safe_iff part breaks (Sublist.refl []) executed
    exact safe.trans ⟨fun both => both.2,fun meets => ⟨rfl,meets⟩⟩

def inTime : List Label :=
  [.call .breaker,.reader 0 .enter,.reader 0 (.yields (.ok { id := .number 1 })),.reader 0 .done,.reader 0 .send,.receive]

theorem inTime_fine : Meets (step GatewayBreaker.defaultCircuitBreakerConfig) Fine {} inTime := by
  iterate 2 refine (meets_cons rfl).mpr ⟨trivial,?_⟩
  refine (meets_cons rfl).mpr ⟨rfl,?_⟩
  iterate 2 refine (meets_cons rfl).mpr ⟨trivial,?_⟩
  exact (meets_cons rfl).mpr ⟨trivial,trivial⟩

theorem response_in_time_returned :
    ∃ t, run (step GatewayBreaker.defaultCircuitBreakerConfig) {} inTime = some t ∧ t.yielded = t.returned ++ t.transit :=
  ⟨_,rfl,(no_response_swallowed_iff GatewayBreaker.defaultCircuitBreakerConfig {} rfl).2.mpr inTime_fine⟩

/-- A call times out and leaves its goroutine, which takes the next response and discards it. -/
theorem response_after_timeout_swallowed :
    ∃ t, run (step GatewayBreaker.defaultCircuitBreakerConfig) {}
        [.call .direct,.reader 0 .enter,.expire 0 true,.timeout,
          .reader 0 (.yields (.ok { id := .number 1 })),.reader 0 .discard] = some t ∧
      t.yielded.length = 1 ∧ t.returned = [] ∧ t.current = none ∧
      t.returns.map (fun entry => entry.2.isOk) = [false] :=
  ⟨_,rfl,rfl,rfl,rfl,rfl⟩

end McpBridge.Receivers
