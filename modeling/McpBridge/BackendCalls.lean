import McpBridge.Channels
import McpBridge.DirectClients

/-!
The gateway's stdio, WebSocket and SSE backends. A call registers a channel under its request's identifier, where the
readers look for the call that a response is for. Calls overlap in any way, and responses carry any identifiers.
-/
namespace McpBridge.BackendCalls
open Values Channels Runs Function

/-- `sprint` is `fmt.Sprintf("%v", _)`. -/
structure Backend where
  name : String
  sprint : Any → String

inductive Pc where
  | start
  | named
  | registered
  | waiting
  | leaving
  | returned
  deriving DecidableEq

/-- A call of `SendRequest`. `result` is what it has received, and `some none` a `nil` response. -/
structure Call where
  id : Any
  key : String := ""
  pc : Pc := .start
  respCh : Slot Response := {}
  result : Option (Option Response) := none

/-- The call has set up its channel and not cleaned it up. -/
def Call.listed (call : Call) : Bool := call.pc ∈ [.registered,.waiting,.leaving]

/-- The router's counter, its calls and its map. -/
structure State where
  requestID : Nat := 0
  call : Nat → Call
  requestMap : String → Option Nat := fun _ => none
  panic : Option Panic := none

/-- The calls for these requests, before they begin. -/
def start (ids : Nat → Any) : State := { call := fun c => { id := ids c } }

namespace State

def set (s : State) (c : Nat) (call : Call) : State := { s with call := update s.call c call }

/-- The same function as in the direct clients. -/
def ensureRequestID (b : Backend) (c : Nat) (s : State) : State :=
  let (key,id,requestID) := (⟨.stdio,b.name,b.sprint⟩ : DirectClients.Client).ensureRequestID s.requestID (s.call c).id
  { s.set c { s.call c with id := id, key := key, pc := .named } with requestID := requestID }

def setupResponseChannel (c : Nat) (s : State) : State :=
  { s.set c { s.call c with pc := .registered, respCh := {} } with
    requestMap := update s.requestMap (s.call c).key (some c) }

def routeResponse (resp : Response) (s : State) : State :=
  match resp.id with
  | .string responseID =>
    match s.requestMap responseID with
    | some c =>
      match (s.call c).respCh.offer resp with
      | .ok slot => s.set c { s.call c with respCh := slot }
      | .error panic => { s with panic := some panic }
    | none => s
  | _ => s

def cleanupResponseChannel (c : Nat) (s : State) : State :=
  match (s.call c).respCh.close with
  | .ok slot =>
    { s.set c { s.call c with pc := .returned, respCh := slot } with
      requestMap := update s.requestMap (s.call c).key none }
  | .error panic => { s with panic := some panic }

end State

/-- What a call does by itself; it is refused when the backend is not running or has no connection. -/
inductive Move where
  | refuse
  | send (ok : Bool)
  | receive
  | giveUp

/-- One step of the call itself. -/
def Call.step (call : Call) : Move → Option Call
  | .refuse => if call.pc = .start ∨ call.pc = .named then some { call with pc := .returned } else none
  | .send ok => if call.pc = .registered then some { call with pc := if ok then .waiting else .leaving } else none
  | .receive =>
    if call.pc = .waiting then
      call.respCh.receive.map fun (got,slot) => { call with pc := .leaving, respCh := slot, result := some got }
    else none
  | .giveUp => if call.pc = .waiting then some { call with pc := .leaving } else none

/-- The steps of the calls and of the reader. -/
inductive Label where
  | ensure (c : Nat)
  | setup (c : Nat)
  | move (c : Nat) (move : Move)
  | route (resp : Response)
  | cleanup (c : Nat)

/-- A run goes on after a panic, of which there is none. -/
def step (b : Backend) (s : State) : Label → Option State
  | .ensure c => if (s.call c).pc = .start then some (s.ensureRequestID b c) else none
  | .setup c => if (s.call c).pc = .named then some (s.setupResponseChannel c) else none
  | .move c move => ((s.call c).step move).map (s.set c)
  | .route resp => some (s.routeResponse resp)
  | .cleanup c => if (s.call c).pc = .leaving then some (s.cleanupResponseChannel c) else none

/-- What a call has received is a response with its own key. -/
def Call.Answered (call : Call) : Prop :=
  ∀ got, call.result = some got → ∃ resp, got = some resp ∧ resp.id = .string call.key

structure Call.Sound (call : Call) : Prop where
  answered : call.Answered
  buffered : ∀ resp, call.respCh.value = some resp → resp.id = .string call.key
  opened : call.listed = true → call.respCh.closed = false
  fresh : call.pc = .start → call.respCh.value = none ∧ call.result = none

structure Sound (s : State) : Prop where
  calm : s.panic = none
  own : ∀ c, (s.call c).Sound
  entry : ∀ key c, s.requestMap key = some c → (s.call c).key = key ∧ (s.call c).listed = true

/-- Every call that has set up its channel is found under its key. -/
def Found (s : State) : Prop := ∀ c, (s.call c).listed = true → s.requestMap (s.call c).key = some c

/-- No call registers under the key of another call that is not cleaned up. -/
def Apart (s : State) : Label → Prop
  | .setup c => ∀ d ≠ c, (s.call d).listed = true → (s.call d).key ≠ (s.call c).key
  | _ => True

variable {b : Backend} {s next : State} {label : Label} {c : Nat} {call : Call} {map : String → Option Nat}

/-- One call changes, and the map has only old entries besides those of the call. -/
theorem Sound.change (sound : Sound s) (own : call.Sound) (entry : ∀ key d, map key = some d →
    d = c ∧ call.key = key ∧ call.listed = true ∨ d ≠ c ∧ s.requestMap key = some d) (n : Nat) :
    Sound { s.set c call with requestMap := map, requestID := n } := by
  refine ⟨sound.calm,fun d => ?_,fun key d found => ?_⟩
  · by_cases here : d = c
    · simpa [State.set,here] using own
    · simpa [State.set,here] using sound.own d
  · rcases entry key d found with ⟨rfl,listed⟩ | ⟨here,old⟩
    · simpa [State.set] using listed
    · simpa [State.set,here] using sound.entry key d old

theorem Sound.set (sound : Sound s) (own : call.Sound)
    (stays : call.key = (s.call c).key ∧ call.listed = (s.call c).listed) : Sound (s.set c call) := by
  refine sound.change own (fun key d found => ?_) s.requestID
  obtain ⟨rfl,listed⟩ := sound.entry key d found
  by_cases here : d = c
  · subst here
    exact .inl ⟨rfl,stays.1,stays.2.trans listed⟩
  · exact .inr ⟨here,found⟩

theorem Call.Sound.step {move : Move} {after : Call} (own : call.Sound) (taken : call.step move = some after) :
    after.Sound ∧ after.key = call.key ∧ after.listed = call.listed := by
  have opened (waits : call.pc = .waiting) := own.opened (by simp [Call.listed,waits])
  cases move with
  | refuse =>
    obtain ⟨here,rfl⟩ := by simpa [Call.step] using taken
    refine ⟨⟨own.answered,own.buffered,nofun,nofun⟩,rfl,?_⟩
    rcases here with here | here <;> simp [Call.listed,here]
  | send ok =>
    obtain ⟨here,rfl⟩ := by simpa [Call.step] using taken
    refine ⟨⟨own.answered,own.buffered,fun _ => own.opened (by simp [Call.listed,here]),?_⟩,rfl,?_⟩
    · cases ok <;> nofun
    · cases ok <;> simp [Call.listed,here]
  | receive =>
    obtain ⟨here,got,slot,received,rfl⟩ := by simpa [Call.step] using taken
    obtain ⟨value,emptied⟩ := Slot.value_of_receive received
    refine ⟨⟨?_,fun resp held => ?_,fun _ => ?_,nofun⟩,rfl,by simp [Call.listed,here]⟩
    · rintro _ ⟨⟩
      cases got with
      | none => exact absurd (opened here) (by simp [Slot.closed_of_receive received])
      | some resp => exact ⟨resp,rfl,own.buffered resp value⟩
    · simp [emptied] at held
    · simpa [Slot.eq_of_receive received] using opened here
  | giveUp =>
    obtain ⟨here,rfl⟩ := by simpa [Call.step] using taken
    exact ⟨⟨own.answered,own.buffered,fun _ => opened here,nofun⟩,rfl,by simp [Call.listed,here]⟩

theorem Sound.routeResponse (sound : Sound s) (resp : Response) : Sound (s.routeResponse resp) := by
  fun_cases State.routeResponse
  case case1 key carries c found slot offered =>
    obtain ⟨rfl,listed⟩ := sound.entry key c found
    have own := sound.own c
    obtain ⟨_,offered',stays⟩ := Slot.offer_of_open resp (own.opened listed)
    rw [offered] at offered'
    cases offered'
    refine sound.set ⟨own.answered,fun other held => ?_,fun _ => stays,fun start => ?_⟩ ⟨rfl,rfl⟩
    · rcases Slot.value_of_offer offered held with before | rfl
      · exact own.buffered other before
      · exact carries
    · simp [Call.listed,show (s.call c).pc = .start from start] at listed
  case case2 key carries c found panic refused =>
    have stays := (sound.own c).opened (sound.entry key c found).2
    rw [Slot.closed_of_offer refused] at stays
    cases stays
  case case3 => exact sound
  case case4 => exact sound

theorem Sound.old (sound : Sound s) {x : Option Nat} {key : String} {d : Nat} (other : key ≠ (s.call c).key)
    (found : update s.requestMap (s.call c).key x key = some d) : d ≠ c ∧ s.requestMap key = some d := by
  have old : s.requestMap key = some d := by simpa [other] using found
  refine ⟨?_,old⟩
  rintro rfl
  exact other (sound.entry key d old).1.symm

theorem Sound.cleanupResponseChannel (sound : Sound s) (leaving : (s.call c).pc = .leaving) :
    Sound (s.cleanupResponseChannel c) := by
  have own := sound.own c
  have closed : (s.call c).respCh.close = .ok { (s.call c).respCh with closed := true } := by
    simp [Slot.close,own.opened (by simp [Call.listed,leaving])]
  have left : Call.Sound { s.call c with pc := .returned, respCh := { (s.call c).respCh with closed := true } } :=
    ⟨own.answered,own.buffered,nofun,nofun⟩
  rw [State.cleanupResponseChannel,closed]
  refine sound.change left (fun key d found => .inr ?_) s.requestID
  by_cases same : key = (s.call c).key
  · simp [same] at found
  · exact sound.old same found

theorem Sound.setupResponseChannel (sound : Sound s) : Sound (s.setupResponseChannel c) := by
  have listed : Call.Sound { s.call c with pc := .registered, respCh := {} } :=
    ⟨(sound.own c).answered,nofun,fun _ => rfl,nofun⟩
  refine sound.change listed (fun key d found => ?_) s.requestID
  by_cases same : key = (s.call c).key
  · obtain rfl : c = d := by simpa [same] using found
    exact .inl ⟨rfl,same.symm,rfl⟩
  · exact .inr (sound.old same found)

theorem Sound.ensureRequestID (sound : Sound s) (start : (s.call c).pc = .start) : Sound (s.ensureRequestID b c) := by
  obtain ⟨empty,nothing⟩ := (sound.own c).fresh start
  have named (id : Any) (key : String) : Call.Sound { s.call c with id := id, key := key, pc := .named } := by
    refine ⟨fun got held => ?_,fun resp held => ?_,nofun,nofun⟩
    · simp [nothing] at held
    · simp [empty] at held
  refine sound.change (named _ _) (fun key d found => .inr ⟨?_,found⟩) _
  rintro rfl
  simpa [Call.listed,start] using (sound.entry key d found).2

theorem Found.set (found : Found s)
    (stays : call.listed = true → call.key = (s.call c).key ∧ (s.call c).listed = true) : Found (s.set c call) := by
  intro d listed
  by_cases here : d = c
  · subst here
    simp only [State.set,update_self] at listed ⊢
    rw [(stays listed).1]
    exact found d (stays listed).2
  · simpa [State.set,here] using found d (by simpa [State.set,here] using listed)

theorem Found.routeResponse (found : Found s) (resp : Response) : Found (s.routeResponse resp) := by
  fun_cases State.routeResponse
  case case1 => exact found.set fun listed => ⟨rfl,listed⟩
  all_goals exact found

theorem found_setup_iff (found : Found s) : Found (s.setupResponseChannel c) ↔ Apart s (.setup c) := by
  constructor
  · intro after d here listed same
    have mine := after d (by simpa [State.setupResponseChannel,State.set,here] using listed)
    have other : c = d := by simpa [State.setupResponseChannel,State.set,here,same] using mine
    exact here other.symm
  · intro apart d listed
    by_cases here : d = c
    · simp [State.setupResponseChannel,State.set,here]
    · have listed : (s.call d).listed = true := by simpa [State.setupResponseChannel,State.set,here] using listed
      simpa [State.setupResponseChannel,State.set,here,apart d here listed] using found d listed

theorem Found.cleanupResponseChannel (found : Found s) (leaving : (s.call c).pc = .leaving) :
    Found (s.cleanupResponseChannel c) := by
  have mine := found c (by simp [Call.listed,leaving])
  unfold State.cleanupResponseChannel
  split
  next =>
    intro d listed
    by_cases here : d = c
    · simp [State.set,here,Call.listed] at listed
    · have there := found d (by simpa [State.set,here] using listed)
      have apart : (s.call d).key ≠ (s.call c).key := by
        intro same
        rw [same,mine] at there
        exact here (Option.some.inj there).symm
      simpa [State.set,here,apart] using there
  next => exact found

theorem step_sound (sound : Sound s) (taken : step b s label = some next) :
    Sound next ∧ (Found s → (Found next ↔ Apart s label)) := by
  cases label with
  | ensure c =>
    obtain ⟨start,rfl⟩ := by simpa [step] using taken
    exact ⟨sound.ensureRequestID start,fun found => iff_of_true (found.set nofun) trivial⟩
  | setup c =>
    obtain ⟨-,rfl⟩ := by simpa [step] using taken
    exact ⟨sound.setupResponseChannel,found_setup_iff⟩
  | move c move =>
    obtain ⟨call,moved,rfl⟩ := Option.map_eq_some_iff.mp taken
    obtain ⟨own,same,listed⟩ := (sound.own c).step moved
    refine ⟨sound.set own ⟨same,listed⟩,fun found => ?_⟩
    exact iff_of_true (found.set fun still => ⟨same,listed ▸ still⟩) trivial
  | route resp =>
    obtain rfl := by simpa [step] using taken
    exact ⟨sound.routeResponse resp,fun found => iff_of_true (found.routeResponse resp) trivial⟩
  | cleanup c =>
    obtain ⟨leaving,rfl⟩ := by simpa [step] using taken
    exact ⟨sound.cleanupResponseChannel leaving,fun found => iff_of_true (found.cleanupResponseChannel leaving) trivial⟩

theorem sound_start (ids : Nat → Any) : Sound (start ids) :=
  ⟨rfl,fun _ => ⟨nofun,nofun,nofun,fun _ => ⟨rfl,rfl⟩⟩,nofun⟩

/-- Nothing ever panics, and a call receives nothing but responses with its own key, no `nil` response either. -/
theorem calls_correlated (b : Backend) (ids : Nat → Any) (labels : List Label) (s : State)
    (executed : run (step b) (start ids) labels = some s) :
    s.panic = none ∧ ∀ c, (s.call c).Answered := by
  have sound := reaches_keeps (fun _ _ _ sound taken => (step_sound sound taken).1) (sound_start ids) ⟨labels,executed⟩
  exact ⟨sound.calm,fun c => (sound.own c).answered⟩

/-- The answer to a call with the identifier `a` is routed, received and returned. -/
def answered : List Label :=
  [.ensure 0,.setup 0,.move 0 (.send true),.route { id := .string "a" },.move 0 .receive,.cleanup 0]

def echo : Backend := ⟨"echo",fun _ => ""⟩

theorem calls_correlated_answered :
    ∃ s, run (step echo) (start fun _ => .string "a") answered = some s ∧
      (s.call 0).result = some (some { id := .string "a" }) ∧ s.panic = none ∧ ∀ c, (s.call c).Answered :=
  ⟨_,rfl,rfl,calls_correlated echo (fun _ => .string "a") answered _ rfl⟩

/-- Every call is always found under its key, exactly when none registers under the key of another that is not cleaned
    up. -/
theorem calls_found_iff (b : Backend) (ids : Nat → Any) (labels : List Label) (s : State)
    (executed : run (step b) (start ids) labels = some s) :
    Always (step b) Found (start ids) labels ↔
      Meets (step b) Apart (start ids) labels :=
  always_iff_meets (fun _ _ _ sound taken => (step_sound sound taken).1)
    (fun _ _ _ sound found taken => (step_sound sound taken).2 found) (sound_start ids) (fun _ => nofun) executed

/-- Two calls are registered side by side, and both are answered. -/
def sideBySide : List Label :=
  [.ensure 0,.ensure 1,.setup 0,.setup 1,.move 0 (.send true),.move 1 (.send true),.route { id := .string "b" },
    .route { id := .string "a" },.move 0 .receive,.move 1 .receive,.cleanup 1,.cleanup 0]

def letter (c : Nat) : Any := .string (if c = 0 then "a" else "b")

theorem calls_found_answered : ∃ s, run (step echo) (start letter) sideBySide = some s ∧
    (s.call 0).result = some (some { id := .string "a" }) ∧ (s.call 1).result = some (some { id := .string "b" }) ∧
    Always (step echo) Found (start letter) sideBySide := by
  refine ⟨_,rfl,rfl,rfl,(calls_found_iff echo letter sideBySide _ rfl).mpr ?_⟩
  iterate 2 refine (meets_cons rfl).mpr ⟨trivial,?_⟩
  iterate 2
    refine (meets_cons rfl).mpr ⟨?_,?_⟩
    · rintro (_ | _ | d) other listed
      all_goals first | contradiction | exact (by decide : "a" ≠ "b")
  iterate 8 refine (meets_cons rfl).mpr ⟨trivial,?_⟩
  trivial

end McpBridge.BackendCalls
