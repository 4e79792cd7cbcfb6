import McpBridge.SseWiring

/-!
The calls that wait on an SSE stream and the end of its reader. Only the reader wakes a call, through its entry in
`pendingRequests`; the deferred loop closes the channels of the entries that it finds.
-/
namespace McpBridge.SseWaiters
open Values Channels Runs SseStreams State List

section
variable {calls : Nat → Call} {s : State}

/-- A receive does not wait. -/
def Ready (slot : Slot Event) : Prop := slot.value ≠ none ∨ slot.closed = true

variable (calls) in
/-- The call has its response or its release, or its stream's reader runs and finds the channel under its identifier. -/
def Covered (s : State) (c st : Nat) : Prop :=
  Ready (s.caller c).respChan ∨ (s.stream st).reader = .running ∧
    ∀ k, (calls c).key? = some k → (s.stream st).pendingRequests.lookup k = some c

variable (calls) in
/-- The process runs, no reader is kept from its deferred sections, and every waiting call can be woken. -/
structure Held (s : State) : Prop where
  up : s.crashed = false
  unblocked : ∀ st, (s.stream st).reader = .running → (s.stream st).locked = false
  covered : ∀ c st, Waits s c st → Covered calls s c st

/-- The entry of an identifier is not the way to another call that waits for it. -/
def Spares (s : State) (st : Nat) (k : Key) (c : Nat) : Prop :=
  ∀ d, d ≠ c → (s.stream st).pendingRequests.lookup k = some d → Waits s d st → Ready (s.caller d).respChan

variable (calls) in
/-- A call registers while the stream is read and its identifier leads to no other waiting call, an unhashable one only
    on a stream that has ended; a call gives up when its identifier leads to no other; and a data line has a hashable
    identifier. -/
def Orderly (s : State) : Label → Prop
  | .register c => ∀ st, (s.caller c).pc = .ready st →
      match (calls c).key? with
      | none => (s.stream st).reader ≠ .running
      | some k => (s.stream st).reader = .running ∧ Spares s st k c
  | .postStatus c _ _ => ∀ st k, Waits s c st → (calls c).key? = some k → Spares s st k c
  | .postFail c _ => ∀ st k, Waits s c st → (calls c).key? = some k → Spares s st k c
  | .cancel c _ => ∀ st k, Waits s c st → (calls c).key? = some k → Spares s st k c
  | .message _ response => response.id.key? ≠ none
  | _ => True

theorem orderly_of_abandons {label : Label} {c : Nat} (abandons : label.abandons = some c) :
    Orderly calls s label ↔ ∀ st k, Waits s c st → (calls c).key? = some k → Spares s st k c := by
  cases label with
  | postStatus | postFail | cancel =>
    cases abandons
    exact Iff.rfl
  | _ => cases abandons

theorem held_init : Held calls init where
  up := rfl
  unblocked st running := by cases running
  covered c st waiting := by obtain here | here := waiting <;> cases here

variable {other : Nat}

theorem Waits.eq {c st : Nat} (waiting : Waits s c st) (waiting' : Waits s c other) : other = st := by
  obtain here | here := waiting <;> obtain here' | here' := waiting' <;> rw [here] at here' <;> cases here' <;> rfl

variable {d : Nat} {pc : Pc} {t : State}

theorem waits_goto {c st : Nat} :
    Waits (s.goto c pc) d st ↔ if d = c then pc = .posting st ∨ pc = .waiting st else Waits s d st := by
  rw [Waits,goto_caller]
  split
  next => exact Iff.rfl
  next => exact Iff.rfl

theorem Wired.nobody (wired : Wired calls s) {c : Nat} (early : Early (s.caller c).pc) (d : Nat) : ¬ Waits s d c :=
  fun waiting => (wired.sent (wired.waits d c waiting)).2 (wired.unopened c early)

theorem Held.frame (held : Held calls s) (up : t.crashed = false)
    (streams : ∀ st, (t.stream st).reader = (s.stream st).reader ∧
      (t.stream st).pendingRequests = (s.stream st).pendingRequests)
    (unblocked : ∀ st, (t.stream st).reader = .running → (t.stream st).locked = false)
    (callers : ∀ c st, Waits t c st → Waits s c st ∧ (Ready (s.caller c).respChan → Ready (t.caller c).respChan)) :
    Held calls t := by
  refine ⟨up,unblocked,fun c st waiting => ?_⟩
  obtain ⟨before,ready⟩ := callers c st waiting
  obtain woken | ⟨running,entry⟩ := held.covered c st before
  · exact .inl (ready woken)
  · rw [Covered,(streams st).1,(streams st).2]
    exact .inr ⟨running,entry⟩

section
variable (held : Held calls s)
include held

theorem Held.goto_idle {c : Nat} (idle : ∀ st, ¬ (pc = .posting st ∨ pc = .waiting st)) : Held calls (s.goto c pc) := by
  refine held.frame held.up (fun _ => ⟨rfl,rfl⟩) held.unblocked fun d st waiting => ?_
  rw [waits_goto] at waiting
  split at waiting
  next => exact absurd waiting (idle st)
  next apart =>
    rw [goto_caller,if_neg apart]
    exact ⟨waiting,id⟩

theorem Held.list (url : String) (st : Option Nat) : Held calls (s.list url st) :=
  ⟨held.up,held.unblocked,held.covered⟩

theorem Held.setPost (c : Nat) (post : Post) : Held calls (s.setPost c post) := by
  refine held.frame held.up (fun _ => ⟨rfl,rfl⟩) held.unblocked fun d st waiting => ?_
  rw [Waits,setPost_pc] at waiting
  rw [setPost_respChan]
  exact ⟨waiting,id⟩

theorem Held.setStream_fresh {st : Nat} {stream : Stream} (unlocked : stream.locked = false)
    (nobody : ∀ d, ¬ Waits s d st) : Held calls (s.setStream st stream) := by
  refine ⟨held.up,fun other running => ?_,fun c other waiting => ?_⟩
  · rw [setStream_stream] at running ⊢
    split at running
    next here =>
      rw [if_pos here]
      exact unlocked
    next apart =>
      rw [if_neg apart]
      exact held.unblocked other running
  · have apart : other ≠ st := by
      rintro rfl
      exact nobody c waiting
    rw [Covered,setStream_stream,if_neg apart]
    exact held.covered c other waiting

theorem Held.openStream {c : Nat} {session : String}
    (idle : ∀ st, ¬ (pc = .posting st ∨ pc = .waiting st)) (nobody : ∀ d, ¬ Waits s d c) :
    Held calls (SseStreams.openStream s c session pc) := by
  refine Held.setStream_fresh (held.goto_idle idle) rfl fun d waiting => ?_
  rw [waits_goto] at waiting
  split at waiting
  next => exact idle c waiting
  next => exact nobody d waiting

theorem held_panic_iff {c st : Nat} :
    Held calls ((s.goto c .panicked).setStream st { s.stream st with locked := true }) ↔
      (s.stream st).reader ≠ .running := by
  constructor
  · intro held' running
    have unlocked := held'.unblocked st (by simpa using running)
    rw [setStream_stream,if_pos rfl] at unlocked
    cases unlocked
  · intro ended
    have moved : Held calls (s.goto c .panicked) := held.goto_idle (by rintro other (same | same) <;> cases same)
    refine moved.frame moved.up (fun other => ?_) (fun other running => ?_) (fun d other waiting => ⟨waiting,id⟩)
    · rw [setStream_stream]
      split
      next here => rw [here]; exact ⟨rfl,rfl⟩
      next => exact ⟨rfl,rfl⟩
    · rw [setStream_stream] at running ⊢
      split at running
      next => exact absurd running ended
      next apart =>
        rw [if_neg apart]
        exact held.unblocked other running

end

section registration
variable {c st : Nat} {k : Key} {k' : Key}

def registering (s : State) (c st : Nat) (k : Key) : State :=
  (s.setCaller c { pc := .posting st, post := .inFlight, stream := some st, respChan := {} }).setStream st
    { s.stream st with pendingRequests := (s.stream st).pendingRequests.insert k c }

theorem waits_registering : Waits (registering s c st k) d other ↔ if d = c then other = st else Waits s d other := by
  unfold Waits registering
  rw [setStream_caller,setCaller_caller]
  split
  next =>
    constructor
    · rintro (same | same)
      · cases same
        rfl
      · cases same
    · rintro rfl
      exact .inl rfl
  next => exact Iff.rfl

theorem lookup_registering : ((registering s c st k).stream other).pendingRequests.lookup k' =
      if other = st ∧ k' = k then some c else (s.stream other).pendingRequests.lookup k' := by
  unfold registering
  rw [setStream_stream]
  obtain rfl | apart := eq_or_ne other st
  · rw [if_pos rfl]
    obtain rfl | differs := eq_or_ne k' k
    · rw [if_pos ⟨rfl,rfl⟩,AList.lookup_insert]
    · rw [if_neg (fun both => differs both.2),AList.lookup_insert_ne differs]
  · rw [if_neg apart,if_neg (fun both => apart both.1)]
    rfl

theorem reader_registering (other : Nat) : ((registering s c st k).stream other).reader = (s.stream other).reader ∧
      ((registering s c st k).stream other).locked = (s.stream other).locked := by
  unfold registering
  rw [setStream_stream]
  split
  next here => rw [here]; exact ⟨rfl,rfl⟩
  next => exact ⟨rfl,rfl⟩

theorem caller_registering (apart : d ≠ c) : (registering s c st k).caller d = s.caller d := by
  rw [registering,setStream_caller,setCaller_caller,if_neg apart]

theorem held_register_iff (wired : Wired calls s) (held : Held calls s) (keyed : (calls c).key? = some k) :
    Held calls (registering s c st k) ↔ (s.stream st).reader = .running ∧ Spares s st k c := by
  constructor
  · intro held'
    constructor
    · obtain ready | ⟨running,_⟩ := held'.covered c st (waits_registering.mpr (by rw [if_pos rfl]))
      · rw [registering,setStream_caller,setCaller_caller,if_pos rfl] at ready
        obtain value | closed := ready
        · exact absurd rfl value
        · cases closed
      · rwa [(reader_registering st).1] at running
    · intro d apart found waiting
      have covered := held'.covered d st (waits_registering.mpr (by rwa [if_neg apart]))
      obtain ready | ⟨_,entry⟩ := covered
      · rwa [caller_registering apart] at ready
      · have taken := entry k (wired.keyed st k d found).1
        rw [lookup_registering,if_pos ⟨rfl,rfl⟩] at taken
        exact absurd (Option.some.inj taken).symm apart
  · rintro ⟨running,spares⟩
    refine ⟨held.up,fun other reads => ?_,fun d other waiting => ?_⟩
    · rw [(reader_registering other).1] at reads
      rw [(reader_registering other).2]
      exact held.unblocked other reads
    · rw [waits_registering] at waiting
      split at waiting
      next same =>
        subst same
        subst waiting
        refine .inr ⟨by rwa [(reader_registering other).1],fun k' key => ?_⟩
        rw [keyed] at key
        cases key
        rw [lookup_registering,if_pos ⟨rfl,rfl⟩]
      next apart =>
        obtain ready | ⟨reads,entry⟩ := held.covered d other waiting
        · exact .inl (by rwa [caller_registering apart])
        · by_cases displaced : other = st ∧ (calls d).key? = some k
          · obtain ⟨rfl,key⟩ := displaced
            exact .inl (by rw [caller_registering apart]; exact spares d apart (entry k key) waiting)
          · refine .inr ⟨by rwa [(reader_registering other).1],fun k' key => ?_⟩
            rw [lookup_registering,if_neg]
            · exact entry k' key
            · rintro ⟨here,rfl⟩
              exact displaced ⟨here,key⟩

def abandoning (s : State) (c st : Nat) (text : String) (k : Key) : State :=
  (s.goto c (.returned (.error text))).erasePending st (some k)

variable {text : String}

theorem waits_abandoning : Waits (abandoning s c st text k) d other ↔ d ≠ c ∧ Waits s d other := by
  have same : Waits (abandoning s c st text k) d other ↔ Waits (s.goto c (.returned (.error text))) d other := by
    unfold Waits abandoning
    rw [erasePending_caller]
  rw [same,waits_goto]
  split
  next here =>
    refine iff_of_false ?_ (fun both => both.1 here)
    rintro (same | same) <;> cases same
  next apart => exact (and_iff_right apart).symm

theorem lookup_abandoning : ((abandoning s c st text k).stream other).pendingRequests.lookup k' =
      if other = st ∧ k' = k then none else (s.stream other).pendingRequests.lookup k' := by
  rw [abandoning,lookup_erasePending,goto_stream]

theorem caller_abandoning (apart : d ≠ c) : (abandoning s c st text k).caller d = s.caller d := by
  rw [abandoning,erasePending_caller,goto_caller,if_neg apart]

theorem held_abandon_iff (wired : Wired calls s) (held : Held calls s) (text : String) :
    Held calls (abandoning s c st text k) ↔ Spares s st k c := by
  have readers (other : Nat) := (erasePending_stream (s.goto c (.returned (.error text))) st (some k) other)
  constructor
  · intro held' d apart found waiting
    obtain ready | ⟨_,entry⟩ := held'.covered d st (waits_abandoning.mpr ⟨apart,waiting⟩)
    · rwa [caller_abandoning apart] at ready
    · have left := entry k (wired.keyed st k d found).1
      rw [lookup_abandoning,if_pos ⟨rfl,rfl⟩] at left
      cases left
  · intro spares
    refine ⟨held.up,fun other reads => ?_,fun d other waiting => ?_⟩
    · rw [abandoning,(readers other).1] at reads
      rw [abandoning,(readers other).2]
      exact held.unblocked other reads
    · obtain ⟨apart,before⟩ := waits_abandoning.mp waiting
      rw [Covered,caller_abandoning apart,abandoning,(readers other).1,← abandoning]
      obtain ready | ⟨reads,entry⟩ := held.covered d other before
      · exact .inl ready
      · by_cases displaced : other = st ∧ (calls d).key? = some k
        · obtain ⟨rfl,key⟩ := displaced
          exact .inl (spares d apart (entry k key) before)
        · refine .inr ⟨reads,fun k' key => ?_⟩
          rw [lookup_abandoning,if_neg]
          · exact entry k' key
          · rintro ⟨here,rfl⟩
            exact displaced ⟨here,key⟩

end registration

variable {st : Nat}

/-- A data line with a hashable identifier wakes the call that it finds, and disturbs no other. -/
theorem held_delivery (wired : Wired calls s) (held : Held calls s) {event : Event}
    (running : (s.stream st).reader = .running) (hashable : event.response.id.key? ≠ none)
    (delivery : Delivery s st event t) : Held calls t := by
  cases delivery with
  | unhashable unkeyed => exact absurd unkeyed hashable
  | unknown => exact held
  | @refused k c panic keyed found offered =>
    have closed := Slot.closed_of_offer offered
    rw [wired.unclosed st k c found running] at closed
    cases closed
  | @delivered k c chan keyed found offered =>
    have readers (other : Nat) := erasePending_stream (s.setChan c chan) st (some k) other
    refine ⟨held.up,fun other reads => ?_,fun d other waiting => ?_⟩
    · rw [(readers other).1] at reads
      rw [(readers other).2]
      exact held.unblocked other reads
    · rw [Waits,erasePending_caller,setChan_caller] at waiting
      rw [Covered,erasePending_caller,setChan_caller,(readers other).1]
      obtain rfl | apart := eq_or_ne d c
      · rw [if_pos rfl]
        exact .inl (.inl (Slot.value_ne_none_of_offer offered))
      · rw [if_neg apart] at waiting ⊢
        obtain ready | ⟨reads,entry⟩ := held.covered d other waiting
        · exact .inl ready
        · refine .inr ⟨reads,fun k' key => ?_⟩
          rw [lookup_erasePending,if_neg,setChan_stream]
          · exact entry k' key
          · rintro ⟨rfl,rfl⟩
            have own := entry k' key
            rw [found] at own
            exact apart (Option.some.inj own).symm

/-- The deferred loop closes the channels of distinct calls that are open. -/
theorem closeAll_spec {entries : List (Sigma fun _ : Key => Nat)} (distinct : (entries.map Sigma.snd).Nodup)
    (unclosed : ∀ entry ∈ entries, (s.caller entry.2).respChan.closed = false) :
    (closeAll s entries).crashed = s.crashed ∧ ∀ c, ((closeAll s entries).caller c).pc = (s.caller c).pc ∧
      (Ready (s.caller c).respChan ∨ c ∈ entries.map Sigma.snd → Ready ((closeAll s entries).caller c).respChan) := by
  induction entries generalizing s with
  | nil =>
    refine ⟨rfl,fun c => ⟨rfl,?_⟩⟩
    rintro (ready | listed)
    · exact ready
    · cases listed
  | cons entry rest ih =>
    obtain ⟨fresh,distinct⟩ := nodup_cons.mp distinct
    have closing : (s.caller entry.2).respChan.close = .ok { (s.caller entry.2).respChan with closed := true } := by
      rw [Slot.close,if_neg]
      rw [unclosed entry mem_cons_self]
      exact Bool.false_ne_true
    rw [closeAll,closing]
    have unclosed' : ∀ later ∈ rest, ((s.setChan entry.2 { (s.caller entry.2).respChan with closed := true }).caller
        later.2).respChan.closed = false := by
      intro later listed
      have apart : later.2 ≠ entry.2 := fun same => fresh (same ▸ mem_map_of_mem listed)
      rw [setChan_caller,if_neg apart]
      exact unclosed later (mem_cons_of_mem entry listed)
    obtain ⟨up,callers⟩ := ih distinct unclosed'
    refine ⟨up,fun c => ?_⟩
    obtain ⟨pc,woken⟩ := callers c
    rw [setChan_caller] at pc woken
    obtain rfl | apart := eq_or_ne c entry.2
    · rw [if_pos rfl] at pc woken
      exact ⟨pc,fun _ => woken (.inl (.inr rfl))⟩
    · rw [if_neg apart] at pc woken
      refine ⟨pc,?_⟩
      rintro (ready | listed)
      · exact woken (.inl ready)
      · obtain same | later := mem_cons.mp listed
        · exact absurd same apart
        · exact woken (.inr later)

theorem Wired.distinct (wired : Wired calls s) (st : Nat) :
    ((s.stream st).pendingRequests.entries.map Sigma.snd).Nodup := by
  have nodup : (s.stream st).pendingRequests.entries.Nodup :=
    List.NodupKeys.nodup (s.stream st).pendingRequests.nodupKeys
  refine List.Nodup.map_on ?_ nodup
  intro entry listed other listed' same
  obtain ⟨_,key,_⟩ := wired.entry listed
  obtain ⟨_,key',_⟩ := wired.entry listed'
  rw [same,key'] at key
  cases entry
  cases other
  cases key
  cases same
  rfl

/-- When the reader ends, every waiting call that it could wake is woken. -/
theorem held_readerEnd (wired : Wired calls s) (held : Held calls s) (running : (s.stream st).reader = .running) :
    Held calls (closeAll (ending s st) (s.stream st).pendingRequests.entries) := by
  have unclosed : ∀ entry ∈ (s.stream st).pendingRequests.entries,
      ((ending s st).caller entry.2).respChan.closed = false := fun entry listed =>
    wired.unclosed st entry.1 entry.2 (wired.entry listed).1 running
  have spec := closeAll_spec (wired.distinct st) unclosed
  refine ⟨spec.1.trans held.up,fun other reads => ?_,fun c other waiting => ?_⟩
  · rw [closeAll_stream,ending,setStream_stream] at reads ⊢
    split at reads
    next => cases reads
    next apart =>
      rw [if_neg apart]
      exact held.unblocked other reads
  · rw [Waits,(spec.2 c).1] at waiting
    rw [Covered,closeAll_stream]
    obtain ready | ⟨reads,entry⟩ := held.covered c other waiting
    · exact .inl ((spec.2 c).2 (.inl ready))
    · obtain ⟨k,key⟩ := wired.hashable c other (wired.waits c other waiting)
      have found := entry k key
      obtain rfl | apart := eq_or_ne other st
      · have listed : (⟨k,c⟩ : Sigma fun _ : Key => Nat) ∈ (s.stream other).pendingRequests.entries :=
          AList.mem_lookup_iff.mp found
        exact .inl ((spec.2 c).2 (.inr (mem_map.mpr ⟨_,listed,rfl⟩)))
      · rw [ending,setStream_stream,if_neg apart]
        exact .inr ⟨reads,entry⟩

theorem held_unlist (held : Held calls s) (closed : (s.stream st).reader = .closed) (url : String) :
    Held calls ((s.setStream st { s.stream st with reader := .gone }).list url none) := by
  apply Held.list
  refine ⟨held.up,fun other reads => ?_,fun c other waiting => ?_⟩
  · rw [setStream_stream] at reads ⊢
    split at reads
    next => cases reads
    next apart =>
      rw [if_neg apart]
      exact held.unblocked other reads
  · obtain ready | ⟨reads,entry⟩ := held.covered c other waiting
    · exact .inl ready
    · have apart : other ≠ st := by
        rintro rfl
        rw [closed] at reads
        cases reads
      refine .inr ?_
      rw [setStream_stream,if_neg apart]
      exact ⟨reads,entry⟩

theorem step_held_iff (s : State) (label : Label) (t : State) (wired : Wired calls s) (held : Held calls s)
    (taken : step calls s label = some t) : Held calls t ↔ Orderly calls s label := by
  cases (step_effect taken).2 with
  | lookup begun onward =>
    refine iff_of_true (held.goto_idle ?_) trivial
    obtain rfl | rfl | ⟨st,_,rfl⟩ := onward <;> rintro other (same | same) <;> cases same
  | initOk asked =>
    refine iff_of_true (held.openStream ?_ (wired.nobody (.inr (.inl asked)))) trivial
    rintro other (same | same) <;> cases same
  | getOk asked =>
    refine iff_of_true (held.openStream ?_ (wired.nobody (.inr (.inr asked)))) trivial
    rintro other (same | same) <;> cases same
  | initFail asked | getFail asked =>
    refine iff_of_true (held.goto_idle ?_) trivial
    rintro other (same | same) <;> cases same
  | storeFirst opened | store opened =>
    refine iff_of_true (Held.list (held.goto_idle ?_) _ _) trivial
    rintro other (same | same) <;> cases same
  | @panic c st here unlocked unkeyed =>
    rw [held_panic_iff held]
    constructor
    · intro ended other same
      rw [here] at same
      cases same
      rw [unkeyed]
      exact ended
    · intro orderly
      have ended := orderly st here
      rw [unkeyed] at ended
      exact ended
  | @register c st k here unlocked keyed =>
    have iff := @held_register_iff _ _ c st k wired held keyed
    rw [registering] at iff
    rw [iff]
    constructor
    · intro fine other same
      rw [here] at same
      cases same
      rw [keyed]
      exact fine
    · intro orderly
      have fine := orderly st here
      rw [keyed] at fine
      exact fine
  | @abandon _ c st text abandons registered unlocked =>
    have waiting : Waits s c st := registered
    obtain ⟨k,key⟩ := wired.hashable c st (wired.waits c st waiting)
    have iff := @held_abandon_iff _ _ c st k wired held text
    rw [abandoning,← key] at iff
    rw [iff,orderly_of_abandons abandons]
    constructor
    · intro fine other k' waiting' key'
      rw [key] at key'
      cases key'
      rw [waiting.eq waiting']
      exact fine
    · intro fine
      exact fine st k waiting key
  | @postOk c st posting =>
    refine iff_of_true (held.frame held.up (fun _ => ⟨rfl,rfl⟩) held.unblocked fun d other waiting => ?_) trivial
    rw [waits_goto] at waiting
    rw [goto_caller]
    split at waiting
    next here =>
      subst here
      rw [if_pos rfl]
      obtain same | same := waiting
      · cases same
      · cases same
        exact ⟨.inl posting,id⟩
    next apart =>
      rw [if_neg apart]
      exact ⟨waiting,id⟩
  | @receive c st x chan waiting received =>
    refine iff_of_true (held.frame held.up (fun _ => ⟨rfl,rfl⟩) held.unblocked fun d other waiting => ?_) trivial
    rw [waits_goto] at waiting
    split at waiting
    next => obtain same | same := waiting <;> cases same
    next apart =>
      rw [Waits,setChan_caller,if_neg apart] at waiting
      rw [goto_caller,if_neg apart,setChan_caller,if_neg apart]
      exact ⟨waiting,id⟩
  | accept | refuse => exact iff_of_true (held.setPost _ _) trivial
  | answer sentOn accepted same running unlocked delivery =>
    refine iff_of_true (held_delivery (wired.setPost _ _) (held.setPost _ _) running ?_ delivery) trivial
    obtain ⟨k,key⟩ := wired.hashable _ _ sentOn
    rw [same,key]
    exact fun none => by cases none
  | message running unlocked delivery =>
    constructor
    · intro held' unkeyed
      cases delivery with
      | unhashable => exact absurd held'.up Bool.noConfusion
      | unknown keyed | refused keyed | delivered keyed => rw [unkeyed] at keyed; cases keyed
    · intro hashable
      apply held_delivery wired held running _ delivery
      exact hashable
  | readerEnd running unlocked => exact iff_of_true (held_readerEnd wired held running) trivial
  | unlist closed => exact iff_of_true (held_unlist held closed _) trivial

end

/-- Every waiting call can always be woken exactly when every step is orderly; then none on a stream that has ended
    waits. -/
theorem waiters_released_iff (calls : Nat → Call) (labels : List Label) (t : State)
    (executed : run (step calls) init labels = some t) :
    (Always (step calls) (Held calls) init labels ↔ Meets (step calls) (Orderly calls) init labels) ∧
      (Meets (step calls) (Orderly calls) init labels → ∀ c st, Waits t c st → (t.stream st).reader ≠ .running →
        Ready (t.caller c).respChan) := by
  have iff : Always (step calls) (Held calls) init labels ↔ Meets (step calls) (Orderly calls) init labels :=
    always_iff_meets step_wired step_held_iff wired_init held_init executed
  refine ⟨iff,fun orderly c st waiting ended => ?_⟩
  have held := (iff.mpr orderly).last executed
  obtain ready | ⟨running,_⟩ := held.covered c st waiting
  · exact ready
  · exact absurd running ended

def ownCalls (n : Nat) : Call := ⟨"http://backend:8080/mcp",{ method := "tools/call", id := .number n }⟩

def endingRun : List Label := [.lookup 0,.getOk 0 "a",.store 0,.register 0,.accept 0,.postOk 0,.readerEnd 0]

theorem waiting_call_released : ∃ t, run (step ownCalls) init endingRun = some t ∧ (t.caller 0).pc = .waiting 0 ∧
      Ready (t.caller 0).respChan := by
  refine ⟨_,rfl,rfl,(waiters_released_iff ownCalls endingRun _ rfl).2 ?_ 0 0 (.inr rfl) (by decide)⟩
  iterate 3 refine (meets_cons rfl).mpr ⟨trivial,?_⟩
  refine ⟨fun st here => ?_,fun _ taken => ?_⟩
  · cases here
    exact ⟨rfl,fun d _ found => by cases found⟩
  cases taken
  exact ⟨trivial,fun _ _ => ⟨trivial,fun _ _ => ⟨trivial,fun _ _ => trivial⟩⟩⟩

/-- A pending entry is that of a call with its identifier which registered on the stream, and the call's channel is open
    as long as the stream is read. -/
theorem pending_entries_owned (calls : Nat → Call) (labels : List Label) (t : State)
    (executed : run (step calls) init labels = some t) (st c : Nat) (k : Key)
    (found : (t.stream st).pendingRequests.lookup k = some c) :
    (calls c).key? = some k ∧ (t.caller c).stream = some st ∧
      ((t.stream st).reader = .running → (t.caller c).respChan.closed = false) := by
  have wired := reaches_keeps step_wired wired_init ⟨labels,executed⟩
  obtain ⟨keyed,sent⟩ := wired.keyed st k c found
  exact ⟨keyed,sent,wired.unclosed st k c found⟩

theorem pending_entry_registered : ∃ t, run (step ownCalls) init (endingRun.take 4) = some t ∧
    (t.stream 0).pendingRequests.lookup (.number 0) = some 0 ∧ (t.caller 0).stream = some 0 :=
  ⟨_,rfl,rfl,(pending_entries_owned ownCalls (endingRun.take 4) _ rfl 0 0 (.number 0) rfl).2.1⟩

def sameCalls (_ : Nat) : Call := ⟨"http://backend:8080/mcp",{ method := "tools/call", id := .number 1 }⟩

/-- A call that found the stream registers after its reader ended; and of two calls with one identifier the first is not
    released. -/
theorem waiting_call_stranded :
    (∃ t, run (step ownCalls) init [.lookup 0,.getOk 0 "a",.store 0,.lookup 1,.readerEnd 0,.unlist 0,.register 1,
        .accept 1,.postOk 1] = some t ∧ (t.caller 1).pc = .waiting 0 ∧ (t.stream 0).reader = .gone ∧
      (t.caller 1).respChan.receive = none) ∧
    ∃ t, run (step sameCalls) init [.lookup 0,.getOk 0 "a",.store 0,.register 0,.accept 0,.postOk 0,.lookup 1,
        .register 1,.readerEnd 0,.unlist 0] = some t ∧ (t.caller 0).pc = .waiting 0 ∧ (t.stream 0).reader = .gone ∧
      (t.caller 0).respChan.receive = none :=
  ⟨⟨_,rfl,rfl,rfl,rfl⟩,_,rfl,rfl,rfl,rfl⟩

end McpBridge.SseWaiters
