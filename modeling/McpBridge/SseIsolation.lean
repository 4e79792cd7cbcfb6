import McpBridge.SseStreams

/-!
Which responses reach which calls on a shared SSE stream. In a run whose registrations never meet an unanswered POST
under the same identifier, every response that a call returns answers its own POST (`sse_responses_isolated`).
-/
namespace McpBridge.SseStreams
open Values Channels Runs

section
variable (calls : Nat → Call)

def Pc.event? : Pc → Option Event
  | .initialized event => some event
  | .returned (.ok event) => some event
  | _ => none

/-- Every response answers the call that returns it. -/
def Isolated (s : State) : Prop :=
  ∀ c event, (s.caller c).pc = .returned (.ok event) → event.answers = some c

/-- The call has sent its POST with the stream's session, and the backend may still answer. -/
def Caller.Unsettled (caller : Caller) (st : Nat) : Prop :=
  caller.stream = some st ∧ (caller.post = .inFlight ∨ caller.post = .accepted)

instance (caller : Caller) (st : Nat) : Decidable (caller.Unsettled st) :=
  inferInstanceAs (Decidable (_ ∧ _))

/-- A call registers an identifier only while the stream has no other unanswered POST under it; a message that answers
    no POST carries no pending identifier; the first event after an initialize POST is its answer. -/
def Clean (s : State) : Label → Prop
  | .register c => ∀ st, (s.caller c).pc = .ready st →
      ∀ d, d ≠ c → (calls d).key? = (calls c).key? → ¬ (s.caller d).Unsettled st
  | .message st response => ∀ k, response.id.key? = some k → (s.stream st).pendingRequests.lookup k = none
  | .initOk _ _ _ own => own = true
  | _ => True

/-- Only the call that an identifier leads to waits for an answer under it, and what a call has answers that call. -/
structure Owned (s : State) : Prop where
  pending : ∀ st k c, (s.stream st).pendingRequests.lookup k = some c →
    ∀ d, (calls d).key? = some k → (s.caller d).Unsettled st → d = c
  buffered : ∀ c event, (s.caller c).respChan.value = some event → event.answers = some c
  held : ∀ c event, (s.caller c).pc.event? = some event → event.answers = some c

variable {calls}

variable {s : State}

theorem Owned.isolated (owned : Owned calls s) : Isolated s := by
  intro c event returned
  apply owned.held
  rw [returned]
  rfl

theorem owned_init : Owned calls init where
  pending st k c found := by cases found
  buffered c event found := by cases found
  held c event found := by cases found

section
variable (owned : Owned calls s)
include owned

/-- A change to one call that takes only its own events, and sends only where its identifier leads to it. -/
theorem Owned.setCaller (c : Nat) (caller : Caller) (sent : ∀ st, caller.Unsettled st → (s.caller c).Unsettled st ∨
      ∀ k, (calls c).key? = some k → (s.stream st).pendingRequests.lookup k = some c)
    (buffered : ∀ event, caller.respChan.value = some event →
      (s.caller c).respChan.value = some event ∨ event.answers = some c)
    (held : ∀ event, caller.pc.event? = some event → (s.caller c).pc.event? = some event ∨ event.answers = some c) :
    Owned calls (s.setCaller c caller) := by
  constructor
  · intro st k e found d key unsettled
    rw [State.setCaller_caller] at unsettled
    split at unsettled
    · next same =>
      subst same
      rcases sent st unsettled with before | leads
      · exact owned.pending st k e found d key before
      · exact Option.some.inj ((leads k key).symm.trans found)
    · exact owned.pending st k e found d key unsettled
  · intro d event found
    rw [State.setCaller_caller] at found
    split at found
    · next same =>
      subst same
      exact (buffered event found).elim (owned.buffered d event) id
    · exact owned.buffered d event found
  · intro d event found
    rw [State.setCaller_caller] at found
    split at found
    · next same =>
      subst same
      exact (held event found).elim (owned.held d event) id
    · exact owned.held d event found

theorem Owned.setStream (st : Nat) (stream : Stream) (registered : ∀ k c, stream.pendingRequests.lookup k = some c →
      (s.stream st).pendingRequests.lookup k = some c ∨
        ∀ d, (calls d).key? = some k → (s.caller d).Unsettled st → d = c) :
    Owned calls (s.setStream st stream) := by
  refine ⟨?_,owned.buffered,owned.held⟩
  intro other k c found
  rw [State.setStream_stream] at found
  split at found
  · next same =>
    subst same
    exact (registered k c found).elim (owned.pending other k c) id
  · exact owned.pending other k c found

theorem Owned.goto (c : Nat) (pc : Pc)
    (held : ∀ event, pc.event? = some event → (s.caller c).pc.event? = some event ∨ event.answers = some c) :
    Owned calls (s.goto c pc) :=
  owned.setCaller c _ (fun _ unsettled => .inl unsettled) (fun _ found => .inl found) held

theorem Owned.setChan (c : Nat) (chan : Slot Event) (buffered : ∀ event, chan.value = some event →
      (s.caller c).respChan.value = some event ∨ event.answers = some c) : Owned calls (s.setChan c chan) :=
  owned.setCaller c _ (fun _ unsettled => .inl unsettled) buffered (fun _ found => .inl found)

theorem Owned.list (url : String) (st : Option Nat) :
    Owned calls (s.list url st) := ⟨owned.pending,owned.buffered,owned.held⟩

theorem Owned.crash : Owned calls { s with crashed := true } :=
  ⟨owned.pending,owned.buffered,owned.held⟩

theorem Owned.erasePending (st : Nat) (id : Option Key) : Owned calls (s.erasePending st id) := by
  cases id with
  | none => exact owned
  | some k =>
    apply owned.setStream
    intro other c found
    by_cases same : other = k
    · rw [same,AList.lookup_erase] at found
      cases found
    · rw [AList.lookup_erase_ne same] at found
      exact .inl found

end

variable {c : Nat}

theorem openStream_owned {session : String} {pc : Pc} (owned : Owned calls s)
    (held : ∀ event, pc.event? = some event → event.answers = some c) : Owned calls (openStream s c session pc) :=
  (owned.goto c pc fun event found => .inr (held event found)).setStream c _ (fun _ _ found => by cases found)

variable {st : Nat} {k : Key}

section
variable (owned : Owned calls s)
include owned

/-- The new entry belongs to the call, and no other call waits under its identifier. -/
theorem register_owned (here : (s.caller c).pc = .ready st) (keyed : (calls c).key? = some k)
    (clean : Clean calls s (.register c)) :
    Owned calls ((s.setCaller c { pc := .posting st, post := .inFlight, stream := some st, respChan := {} }).setStream st
      { s.stream st with pendingRequests := (s.stream st).pendingRequests.insert k c }) := by
  have listed : Owned calls (s.setStream st
      { s.stream st with pendingRequests := (s.stream st).pendingRequests.insert k c }) := by
    apply owned.setStream
    intro id e found
    by_cases same : id = k
    · subst same
      rw [AList.lookup_insert] at found
      cases found
      refine .inr fun d key unsettled => ?_
      by_contra other
      exact clean st here d other (key.trans keyed.symm) unsettled
    · rw [AList.lookup_insert_ne same] at found
      exact .inl found
  refine listed.setCaller c _ (fun other unsettled => .inr fun id key => ?_) (fun _ found => by cases found)
    (fun _ found => by cases found)
  obtain rfl := Option.some.inj unsettled.1
  obtain rfl := Option.some.inj (keyed.symm.trans key)
  simp [State.setStream_stream,↓reduceIte,AList.lookup_insert]

theorem receive_owned {x : Option Event} {chan : Slot Event}
    (received : (s.caller c).respChan.receive = some (x,chan)) :
    Owned calls ((s.setChan c chan).goto c (.returned (resultOf x))) := by
  have emptied : Owned calls (s.setChan c chan) := owned.setChan c chan fun _ found => by
    simp [(Slot.value_of_receive received).2] at found
  refine emptied.goto c _ fun event found => .inr ?_
  cases x with
  | none => cases found
  | some own =>
    cases found
    exact owned.buffered c event (Slot.value_of_receive received).1

theorem delivery_owned {t : State} {event : Event}
    (mine : ∀ k c, event.response.id.key? = some k → (s.stream st).pendingRequests.lookup k = some c →
      event.answers = some c)
    (delivery : Delivery s st event t) : Owned calls t := by
  cases delivery with
  | unhashable | refused => exact owned.crash
  | unknown => exact owned
  | delivered keyed found offered =>
    refine Owned.erasePending (owned.setChan _ _ fun other buffered => ?_) st _
    rcases Slot.value_of_offer offered buffered with before | same
    · exact .inl before
    · exact .inr (same ▸ mine _ _ keyed found)

theorem setPost_owned (c : Nat) (sent : Post)
    (before : sent = .inFlight ∨ sent = .accepted → (s.caller c).post = .inFlight) : Owned calls (s.setPost c sent) :=
  owned.setCaller c _ (fun _ unsettled => .inl ⟨unsettled.1,.inl (before unsettled.2)⟩) (fun _ found => .inl found)
    (fun _ found => .inl found)

theorem closeAll_owned (entries : List (Sigma fun _ : Key => Nat)) : Owned calls (closeAll s entries) := by
  induction entries generalizing s with
  | nil => exact owned
  | cons entry rest ih =>
    unfold closeAll
    split
    · exact owned.crash
    · next chan closed =>
      apply ih
      refine owned.setChan entry.2 chan fun event found => .inl ?_
      rwa [← Slot.value_of_close closed]

end

theorem step_owned (s : State) (label : Label) (t : State) (owned : Owned calls s) (clean : Clean calls s label)
    (taken : step calls s label = some t) : Owned calls t := by
  cases (step_effect taken).2 with
  | lookup begun onward =>
    refine owned.goto _ _ fun event found => ?_
    obtain rfl | rfl | ⟨st,_,rfl⟩ := onward <;> cases found
  | initOk asked =>
    refine openStream_owned owned fun event found => ?_
    cases found
    simp [show _ = true from clean]
  | initFail | getFail | postOk => exact owned.goto _ _ (fun _ found => by cases found)
  | getOk asked => exact openStream_owned owned (fun _ found => by cases found)
  | storeFirst opened =>
    refine (owned.goto _ _ fun other found => .inl ?_).list _ _
    rw [opened]
    exact found
  | store opened => exact (owned.goto _ _ (fun _ found => by cases found)).list _ _
  | panic here unlocked unkeyed =>
    exact (owned.goto _ _ (fun _ found => by cases found)).setStream _ _ (fun _ _ found => .inl found)
  | register here unlocked keyed => exact register_owned owned here keyed clean
  | abandon abandons registered unlocked =>
    exact (owned.goto _ _ (fun _ found => by cases found)).erasePending _ _
  | receive waiting received => exact receive_owned owned received
  | accept inFlight | refuse inFlight => exact setPost_owned owned _ _ (fun _ => inFlight)
  | answer sentOn accepted same running unlocked delivery =>
    -- the answer can only meet the entry of its call, which has the one unanswered POST under the identifier
    refine delivery_owned (setPost_owned owned _ .answered (by simp)) ?_ delivery
    intro k d keyed found
    exact congrArg some (owned.pending _ k d found _ (same.symm.trans keyed) ⟨sentOn,.inr accepted⟩)
  | message running unlocked delivery =>
    refine delivery_owned owned (fun k c keyed found => ?_) delivery
    rw [clean k keyed] at found
    cases found
  | readerEnd running unlocked =>
    apply closeAll_owned
    exact owned.setStream _ _ (fun _ _ found => .inl found)
  | unlist closed =>
    apply Owned.list
    exact owned.setStream _ _ (fun _ _ found => .inl found)

/-- In a run of clean steps, every response that a call returns answers its own POST. -/
theorem sse_responses_isolated (calls : Nat → Call) (labels : List Label) (t : State)
    (clean : Meets (step calls) (Clean calls) init labels) (executed : run (step calls) init labels = some t) :
    Isolated t :=
  (run_keeps step_owned owned_init clean executed).isolated

def distinctCalls (n : Nat) : Call := ⟨"http://backend:8080/mcp",{ method := "tools/call", id := .number n }⟩

def distinctRun : List Label :=
  [.lookup 0,.getOk 0 "session",.store 0,.register 0,.lookup 1,.register 1,.accept 0,.accept 1,.postOk 1,
    .answer 1 { id := .number 1 },.receive 1,.answer 0 { id := .number 0 },.postOk 0,.receive 0]

theorem distinct_calls_isolated : ∃ t, run (step distinctCalls) init distinctRun = some t ∧
      Meets (step distinctCalls) (Clean distinctCalls) init distinctRun ∧ Isolated t := by
  have clean : Meets (step distinctCalls) (Clean distinctCalls) init distinctRun := by
    apply meets_of_mem
    intro label member s
    simp only [distinctRun,List.mem_cons,List.not_mem_nil,or_false] at member
    rcases member with rfl | rfl | rfl | rfl | rfl | rfl | rfl | rfl | rfl | rfl | rfl | rfl | rfl | rfl <;> first
      | trivial
      | (intro st _ d other same
         simp only [Call.key?,distinctCalls,Any.key?,Option.some.injEq,Key.number.injEq] at same
         exact absurd (by exact_mod_cast same) other)
  exact ⟨_,rfl,clean,sse_responses_isolated distinctCalls distinctRun _ clean rfl⟩

def twinCalls (_ : Nat) : Call := ⟨"http://backend:8080/mcp",{ method := "tools/call", id := .number 1 }⟩

def twinRun : List Label :=
  [.lookup 0,.getOk 0 "session",.store 0,.register 0,.accept 0,.lookup 1,.register 1,.accept 1,.postOk 1,
    .answer 0 { result := .string "for the first call", id := .number 1 },.receive 1]

theorem twin_calls_mix_responses :
    ∃ t event, run (step twinCalls) init twinRun = some t ∧ (t.caller 1).pc = .returned (.ok event) ∧
      event.answers = some 0 ∧ ¬ Isolated t := by
  refine ⟨_,_,rfl,rfl,rfl,?_⟩
  intro isolated
  have own := isolated 1 _ rfl
  cases own

end
end McpBridge.SseStreams
