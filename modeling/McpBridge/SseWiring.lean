import McpBridge.SseStreams

/-!
How calls, streams and pending entries hang together in every run of `forwardRequestViaSSE` (`step_wired`).
-/
namespace McpBridge.SseWaiters
open Values Channels Runs SseStreams State

section
variable (calls : Nat → Call)

def refers (c : Nat) : Pc → Option Nat
  | .initialized _ => some c
  | .established => some c
  | .ready st => some st
  | .posting st => some st
  | .waiting st => some st
  | _ => none

def Early (pc : Pc) : Prop := pc = .start ∨ pc = .initializing ∨ pc = .establishing

def Waits (s : State) (c st : Nat) : Prop := (s.caller c).pc = .posting st ∨ (s.caller c).pc = .waiting st

def Registered : Pc → Prop
  | .posting _ => True
  | .waiting _ => True
  | .returned _ => True
  | _ => False

def Named (s : State) (st : Nat) : Prop :=
  (∃ c, refers c (s.caller c).pc = some st) ∨ (∃ c, (s.caller c).stream = some st) ∨ ∃ url, s.sseStreams url = some st

/-- An entry belongs to a call with its identifier that registered on the stream, and its channel is open while that is
    read. -/
structure Wired (s : State) : Prop where
  keyed : ∀ st k c, (s.stream st).pendingRequests.lookup k = some c →
    (calls c).key? = some k ∧ (s.caller c).stream = some st
  hashable : ∀ c st, (s.caller c).stream = some st → ∃ k, (calls c).key? = some k
  waits : ∀ c st, Waits s c st → (s.caller c).stream = some st
  registered : ∀ c st, (s.caller c).stream = some st → Registered (s.caller c).pc
  opened : ∀ st, Named s st → (s.stream st).reader ≠ .unopened
  unopened : ∀ c, Early (s.caller c).pc → (s.stream c).reader = .unopened
  unclosed : ∀ st k c, (s.stream st).pendingRequests.lookup k = some c → (s.stream st).reader = .running →
    (s.caller c).respChan.closed = false

variable {calls} {s : State}

theorem wired_init : Wired calls init where
  keyed st k c found := by cases found
  hashable c st sent := by cases sent
  waits c st waiting := by obtain here | here := waiting <;> cases here
  registered c st sent := by cases sent
  opened st named := by obtain ⟨c,here⟩ | ⟨c,sent⟩ | ⟨url,listed⟩ := named <;> contradiction
  unopened c early := rfl
  unclosed st k c found := by cases found

variable {c : Nat}

section
variable (wired : Wired calls s)
include wired

theorem Wired.setCaller {caller : Caller}
    (sent : ∀ st, caller.stream = some st → (∃ k, (calls c).key? = some k) ∧ (s.stream st).reader ≠ .unopened)
    (waits : ∀ st, caller.pc = .posting st ∨ caller.pc = .waiting st → caller.stream = some st)
    (registered : ∀ st, caller.stream = some st → Registered caller.pc)
    (known : ∀ st, refers c caller.pc = some st → (s.stream st).reader ≠ .unopened)
    (early : Early caller.pc → Early (s.caller c).pc)
    (entries : ∀ st k, (s.stream st).pendingRequests.lookup k = some c →
      caller.stream = some st ∧ ((s.stream st).reader = .running → caller.respChan.closed = false)) :
    Wired calls (s.setCaller c caller) := by
  have other {d : Nat} (apart : d ≠ c) : (s.setCaller c caller).caller d = s.caller d := by
    rw [setCaller_caller,if_neg apart]
  have self : (s.setCaller c caller).caller c = caller := by
    rw [setCaller_caller,if_pos rfl]
  refine ⟨?_,?_,?_,?_,?_,?_,?_⟩
  · intro st k d found
    obtain ⟨key,before⟩ := wired.keyed st k d found
    refine ⟨key,?_⟩
    obtain rfl | apart := eq_or_ne d c
    · rw [self]
      exact (entries st k found).1
    · rwa [other apart]
  · intro d st sentOn
    obtain rfl | apart := eq_or_ne d c
    · rw [self] at sentOn
      exact (sent st sentOn).1
    · rw [other apart] at sentOn
      exact wired.hashable d st sentOn
  · intro d st waiting
    obtain rfl | apart := eq_or_ne d c
    · rw [Waits,self] at waiting
      rw [self]
      exact waits st waiting
    · rw [Waits,other apart] at waiting
      rw [other apart]
      exact wired.waits d st waiting
  · intro d st sentOn
    obtain rfl | apart := eq_or_ne d c
    · rw [self] at sentOn ⊢
      exact registered st sentOn
    · rw [other apart] at sentOn ⊢
      exact wired.registered d st sentOn
  · rintro st (⟨d,here⟩ | ⟨d,sentOn⟩ | listed)
    · obtain rfl | apart := eq_or_ne d c
      · rw [self] at here
        exact known st here
      · rw [other apart] at here
        exact wired.opened st (.inl ⟨d,here⟩)
    · obtain rfl | apart := eq_or_ne d c
      · rw [self] at sentOn
        exact (sent st sentOn).2
      · rw [other apart] at sentOn
        exact wired.opened st (.inr (.inl ⟨d,sentOn⟩))
    · exact wired.opened st (.inr (.inr listed))
  · intro d was
    obtain rfl | apart := eq_or_ne d c
    · rw [self] at was
      exact wired.unopened d (early was)
    · rw [other apart] at was
      exact wired.unopened d was
  · intro st k d found running
    obtain rfl | apart := eq_or_ne d c
    · rw [self]
      exact (entries st k found).2 running
    · rw [other apart]
      exact wired.unclosed st k d found running

theorem Wired.sent {c st : Nat} (sentOn : (s.caller c).stream = some st) :
    (∃ k, (calls c).key? = some k) ∧ (s.stream st).reader ≠ .unopened :=
  ⟨wired.hashable c st sentOn,wired.opened st (.inr (.inl ⟨c,sentOn⟩))⟩

variable {pc : Pc}

theorem Wired.goto
    (known : ∀ st, refers c pc = some st → (s.stream st).reader ≠ .unopened) (early : Early pc → Early (s.caller c).pc)
    (waits : ∀ st, pc = .posting st ∨ pc = .waiting st → (s.caller c).stream = some st)
    (registered : ∀ st, (s.caller c).stream = some st → Registered pc) : Wired calls (s.goto c pc) := by
  refine wired.setCaller (fun st sentOn => wired.sent sentOn) waits registered known early fun st k found => ?_
  exact ⟨(wired.keyed st k c found).2,wired.unclosed st k c found⟩

theorem Wired.goto_idle (idle : refers c pc = none)
    (early : Early pc → Early (s.caller c).pc) (registered : ∀ st, (s.caller c).stream = some st → Registered pc) :
    Wired calls (s.goto c pc) := by
  refine wired.goto (fun st here => ?_) early (fun st waiting => ?_) registered
  · rw [idle] at here
    cases here
  · obtain rfl | rfl := waiting <;> cases idle

theorem Wired.setChan {chan : Slot Event}
    (unclosed : ∀ st k, (s.stream st).pendingRequests.lookup k = some c → (s.stream st).reader = .running →
      chan.closed = false) : Wired calls (s.setChan c chan) := by
  refine wired.setCaller (fun st sentOn => wired.sent sentOn) (wired.waits c) (wired.registered c) (fun st here => ?_) id
    fun st k found => ?_
  · exact wired.opened st (.inl ⟨c,here⟩)
  · exact ⟨(wired.keyed st k c found).2,unclosed st k found⟩

theorem Wired.setPost (c : Nat) (post : Post) : Wired calls (s.setPost c post) := by
  refine wired.setCaller (fun st sentOn => wired.sent sentOn) (wired.waits c) (wired.registered c) (fun st here => ?_) id
    fun st k found => ?_
  · exact wired.opened st (.inl ⟨c,here⟩)
  · exact ⟨(wired.keyed st k c found).2,wired.unclosed st k c found⟩

variable {st : Nat} {stream : Stream}

/-- A change to one stream that was opened before or by a call that has none. -/
theorem Wired.setStream
    (opened : Named s st → stream.reader ≠ .unopened) (unopened : Early (s.caller st).pc → stream.reader = .unopened)
    (entries : ∀ k c, stream.pendingRequests.lookup k = some c →
      ((calls c).key? = some k ∧ (s.caller c).stream = some st) ∧
        (stream.reader = .running → (s.caller c).respChan.closed = false)) : Wired calls (s.setStream st stream) := by
  refine ⟨?_,wired.hashable,wired.waits,wired.registered,?_,?_,?_⟩
  · intro other k c found
    rw [setStream_stream] at found
    split at found
    next same =>
      subst same
      exact (entries k c found).1
    next => exact wired.keyed other k c found
  · intro other named
    rw [setStream_stream]
    split
    next same =>
      subst same
      exact opened named
    next => exact wired.opened other named
  · intro c early
    rw [setStream_stream]
    split
    next same =>
      subst same
      exact unopened early
    next => exact wired.unopened c early
  · intro other k c found running
    rw [setStream_stream] at found running
    split at found
    next same =>
      subst same
      rw [if_pos rfl] at running
      exact (entries k c found).2 running
    next apart =>
      rw [if_neg apart] at running
      exact wired.unclosed other k c found running

/-- The reader of a stream moves on, or the stream is locked; its entries stay. -/
theorem Wired.setReader (entries : stream.pendingRequests = (s.stream st).pendingRequests)
    (reader : stream.reader = (s.stream st).reader ∨
      (s.stream st).reader ≠ .unopened ∧ (stream.reader = .closed ∨ stream.reader = .gone)) :
    Wired calls (s.setStream st stream) := by
  apply wired.setStream
  · intro named
    obtain same | ⟨_,ended | ended⟩ := reader
    · rw [same]
      exact wired.opened st named
    all_goals
      rw [ended]
      decide
  · intro early
    obtain same | ⟨open_,_⟩ := reader
    · rw [same]
      exact wired.unopened st early
    · exact absurd (wired.unopened st early) open_
  · intro k c found
    rw [entries] at found
    refine ⟨wired.keyed st k c found,fun running => ?_⟩
    obtain same | ⟨_,ended | ended⟩ := reader
    · exact wired.unclosed st k c found (same ▸ running)
    all_goals
      rw [ended] at running
      cases running

theorem Wired.erasePending (st : Nat) (id : Option Key) : Wired calls (s.erasePending st id) := by
  cases id with
  | none => exact wired
  | some key =>
    refine wired.setStream (wired.opened st) (wired.unopened st) fun k c found => ?_
    obtain rfl | apart := eq_or_ne k key
    · rw [AList.lookup_erase] at found
      cases found
    · rw [AList.lookup_erase_ne apart] at found
      exact ⟨wired.keyed st k c found,wired.unclosed st k c found⟩

theorem Wired.list {url : String} {st : Option Nat}
    (opened : ∀ c, st = some c → (s.stream c).reader ≠ .unopened) : Wired calls (s.list url st) := by
  refine ⟨wired.keyed,wired.hashable,wired.waits,wired.registered,?_,wired.unopened,wired.unclosed⟩
  rintro other (here | sentOn | ⟨place,listed⟩)
  · exact wired.opened other (.inl here)
  · exact wired.opened other (.inr (.inl sentOn))
  · rw [list_sseStreams] at listed
    split at listed
    next => exact opened other listed
    next => exact wired.opened other (.inr (.inr ⟨place,listed⟩))

theorem Wired.crash : Wired calls { s with crashed := true } :=
  ⟨wired.keyed,wired.hashable,wired.waits,wired.registered,wired.opened,wired.unopened,wired.unclosed⟩

theorem Wired.unsent (before : ¬ Registered (s.caller c).pc) (st : Nat) : (s.caller c).stream ≠ some st :=
  fun sentOn => before (wired.registered c st sentOn)

theorem Wired.openStream {session : String}
    (unsent : ∀ st, (s.caller c).stream ≠ some st) (here : refers c pc = some c) (late : ¬ Early pc)
    (idle : ∀ st, ¬ (pc = .posting st ∨ pc = .waiting st)) : Wired calls (openStream s c session pc) := by
  have parked : Wired calls (s.goto c .panicked) := by
    refine wired.goto_idle rfl (fun early => ?_) (fun st sentOn => absurd sentOn (unsent st))
    obtain same | same | same := early <;> cases same
  have streamed : Wired calls ((s.goto c .panicked).setStream c { sessionID := session, reader := .running }) := by
    refine parked.setStream (fun _ same => by cases same) (fun early => ?_) (fun k d found => by cases found)
    rw [goto_caller,if_pos rfl] at early
    obtain same | same | same := early <;> cases same
  have same : SseStreams.openStream s c session pc =
      ((s.goto c .panicked).setStream c { sessionID := session, reader := .running }).goto c pc := by
    simp [SseStreams.openStream,State.goto,State.setCaller,State.setStream,Function.update_idem]
  rw [same]
  refine streamed.goto (fun st known => ?_) (fun early => absurd early late) (fun st waiting => absurd waiting (idle st))
    fun st sentOn => ?_
  · rw [here] at known
    cases known
    rw [setStream_stream,if_pos rfl]
    exact fun unopened => by cases unopened
  · rw [setStream_caller,goto_caller,if_pos rfl] at sentOn
    exact absurd sentOn (unsent st)

theorem Wired.register {c st : Nat} {k : Key} (here : (s.caller c).pc = .ready st) (keyed : (calls c).key? = some k) :
    Wired calls ((s.setCaller c { pc := .posting st, post := .inFlight, stream := some st, respChan := {} }).setStream st
      { s.stream st with pendingRequests := (s.stream st).pendingRequests.insert k c }) := by
  have opened : (s.stream st).reader ≠ .unopened := wired.opened st (.inl ⟨c,by rw [here]; rfl⟩)
  have unsent := wired.unsent (show ¬ Registered (s.caller c).pc by rw [here]; exact id)
  have posted : Wired calls
      (s.setCaller c { pc := .posting st, post := .inFlight, stream := some st, respChan := {} }) := by
    refine wired.setCaller ?_ ?_ (fun _ _ => trivial) ?_ ?_ ?_
    · intro other sentOn
      cases sentOn
      exact ⟨⟨k,keyed⟩,opened⟩
    · rintro other (posting | waiting)
      · cases posting
        rfl
      · cases waiting
    · intro other known
      cases known
      exact opened
    · rintro (same | same | same) <;> cases same
    · intro other k' found
      exact absurd (wired.keyed other k' c found).2 (unsent other)
  refine posted.setStream (fun _ => opened) (fun early => posted.unopened st early) fun k' d found => ?_
  obtain rfl | apart := eq_or_ne k' k
  · rw [AList.lookup_insert] at found
    cases found
    rw [setCaller_caller,if_pos rfl]
    exact ⟨⟨keyed,rfl⟩,fun _ => rfl⟩
  · rw [AList.lookup_insert_ne apart] at found
    exact ⟨posted.keyed st k' d found,posted.unclosed st k' d found⟩

theorem Wired.delivery {event : Event} {t : State} (delivery : Delivery s st event t) : Wired calls t := by
  cases delivery with
  | unhashable | refused => exact wired.crash
  | unknown => exact wired
  | @delivered k c chan keyed found offered =>
    refine Wired.erasePending (wired.setChan fun other k' found' running => ?_) st _
    obtain ⟨next,offered',stays⟩ := Slot.offer_of_open event (wired.unclosed other k' c found' running)
    rw [offered] at offered'
    cases offered'
    exact stays

theorem Wired.closeAll (ended : (s.stream st).reader ≠ .running)
    {entries : List (Sigma fun _ : Key => Nat)} (sent : ∀ entry ∈ entries, (s.caller entry.2).stream = some st) :
    Wired calls (closeAll s entries) := by
  induction entries generalizing s with
  | nil => exact wired
  | cons entry rest ih =>
    unfold SseStreams.closeAll
    split
    next => exact wired.crash
    next chan closed =>
      refine ih (wired.setChan fun other k found running => ?_) ended fun later listed => ?_
      · have sentOn := (wired.keyed other k entry.2 found).2
        rw [sent entry List.mem_cons_self] at sentOn
        cases sentOn
        exact absurd running ended
      · rw [setChan_caller]
        have sentOn := sent later (List.mem_cons_of_mem entry listed)
        split
        next same => rwa [same] at sentOn
        next => exact sentOn

def ending (s : State) (st : Nat) : State := s.setStream st { s.stream st with reader := .closed }

theorem Wired.ending (running : (s.stream st).reader = .running) : Wired calls (ending s st) :=
  wired.setReader rfl (.inr ⟨by rw [running]; decide,.inl rfl⟩)

theorem Wired.entry {entry : Sigma fun _ : Key => Nat} (listed : entry ∈ (s.stream st).pendingRequests.entries) :
    (s.stream st).pendingRequests.lookup entry.1 = some entry.2 ∧ (calls entry.2).key? = some entry.1 ∧
      (s.caller entry.2).stream = some st := by
  have found : (s.stream st).pendingRequests.lookup entry.1 = some entry.2 := AList.mem_lookup_iff.mpr listed
  exact ⟨found,wired.keyed st entry.1 entry.2 found⟩

end

theorem step_wired (s : State) (label : Label) (t : State) (wired : Wired calls s)
    (taken : step calls s label = some t) : Wired calls t := by
  cases (step_effect taken).2 with
  | lookup begun onward =>
    have unsent := wired.unsent (show ¬ Registered _ by rw [begun]; exact id)
    obtain rfl | rfl | ⟨st,listed,rfl⟩ := onward
    · exact wired.goto_idle rfl (fun _ => .inl begun) (fun st sentOn => absurd sentOn (unsent st))
    · exact wired.goto_idle rfl (fun _ => .inl begun) (fun st sentOn => absurd sentOn (unsent st))
    · refine wired.goto (fun other known => ?_) (fun early => ?_) (fun other waiting => ?_)
        (fun other sentOn => absurd sentOn (unsent other))
      · cases known
        exact wired.opened st (.inr (.inr ⟨_,listed⟩))
      · obtain same | same | same := early <;> cases same
      · obtain same | same := waiting <;> cases same
  | initOk asked | getOk asked =>
    refine wired.openStream (wired.unsent (by rw [asked]; exact id)) rfl ?_ ?_
    · rintro (same | same | same) <;> cases same
    · rintro st (same | same) <;> cases same
  | initFail asked =>
    refine wired.goto_idle rfl (fun _ => .inr (.inl asked)) fun st sentOn => ?_
    exact absurd sentOn (wired.unsent (by rw [asked]; exact id) st)
  | getFail asked => exact wired.goto_idle rfl (fun _ => .inr (.inr asked)) (fun _ _ => trivial)
  | @storeFirst c event opened =>
    have known : (s.stream c).reader ≠ .unopened := wired.opened c (.inl ⟨c,by rw [opened]; rfl⟩)
    have moved : Wired calls (s.goto c (.returned (.ok event))) := by
      refine wired.goto_idle rfl ?_ (fun _ _ => trivial)
      rintro (same | same | same) <;> cases same
    refine moved.list fun d same => ?_
    cases same
    exact known
  | @store c opened =>
    have known : (s.stream c).reader ≠ .unopened := wired.opened c (.inl ⟨c,by rw [opened]; rfl⟩)
    have unsent := wired.unsent (show ¬ Registered (s.caller c).pc by rw [opened]; exact id)
    refine (wired.goto (fun st same => ?_) ?_ ?_ (fun st sentOn => absurd sentOn (unsent st))).list fun d same => ?_
    · cases same
      exact known
    · rintro (same | same | same) <;> cases same
    · rintro st (same | same) <;> cases same
    · cases same
      exact known
  | @panic c st here unlocked unkeyed =>
    have unsent := wired.unsent (show ¬ Registered (s.caller c).pc by rw [here]; exact id)
    refine (wired.goto_idle rfl ?_ (fun st sentOn => absurd sentOn (unsent st))).setReader rfl (.inl rfl)
    rintro (same | same | same) <;> cases same
  | register here unlocked keyed => exact wired.register here keyed
  | @abandon _ c st text abandons registered unlocked =>
    have moved : Wired calls (s.goto c (.returned (.error text))) := by
      refine wired.goto_idle rfl ?_ (fun _ _ => trivial)
      rintro (same | same | same) <;> cases same
    exact moved.erasePending _ _
  | @postOk c st posting =>
    refine wired.goto (fun other same => ?_) ?_ ?_ (fun _ _ => trivial)
    · cases same
      exact wired.opened st (.inl ⟨c,by rw [posting]; rfl⟩)
    · rintro (same | same | same) <;> cases same
    · rintro other (same | same)
      · cases same
      · cases same
        exact wired.waits c st (.inl posting)
  | receive waiting received =>
    refine (wired.setChan fun st k found running => ?_).goto_idle rfl ?_ (fun _ _ => trivial)
    · rw [Slot.eq_of_receive received]
      exact wired.unclosed st k _ found running
    · rintro (same | same | same) <;> cases same
  | accept | refuse => exact wired.setPost _ _
  | answer sentOn accepted same running unlocked delivery => exact (wired.setPost _ _).delivery delivery
  | message running unlocked delivery => exact wired.delivery delivery
  | @readerEnd st running unlocked =>
    refine (wired.ending running).closeAll ?_ fun entry listed => (wired.entry listed).2.2
    rw [ending,setStream_stream,if_pos rfl]
    exact fun still => by cases still
  | @unlist st closed =>
    have ended : Wired calls (s.setStream st { s.stream st with reader := .gone }) :=
      wired.setReader rfl (.inr ⟨by rw [closed]; decide,.inr rfl⟩)
    exact ended.list (fun c same => by cases same)

end

end McpBridge.SseWaiters
