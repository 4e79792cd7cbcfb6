import McpBridge.Auth
import McpBridge.NamespaceRules
import McpBridge.Runs

/-!
Protocol detection for direct clients (`direct/manager.go`, `direct/protocol_detector.go`,
`direct/protocol_hint_analyzer.go`). `GetClient` tests the protocols that the URL hints at and then the preferred order;
both use one cache, also for failures.
-/
namespace McpBridge.ProtocolDetection
open Runs List Function
open Auth (fields)
open NamespaceRules (contains)

/-- `ClientType`. A text of the preferred order may be none of the four. -/
inductive ClientType
  | stdio
  | webSocket
  | http
  | sse
  | other (name : String)
  deriving DecidableEq

structure URL where
  scheme : String
  path : String

/-- `url.Parse`, the executables of the host and the servers behind the URLs. -/
structure World where
  parse : String → Option URL
  /-- `exec.LookPath` finds it, or it is a file with an executable mode. -/
  executable : String → Bool
  dials : String → Bool
  posts : String → Bool
  gets : String → Option String

/-- `AutoDetectionConfig`. Its timeout is part of when the contexts of a call end. -/
structure AutoDetection where
  enabled : Bool
  cacheResults : Bool
  preferredOrder : List ClientType

def stdioScheme (url : String) : Bool := "stdio://".toList.isPrefixOf url.toList

section
variable (w : World) (url : String)

def canConnectStdio : Bool :=
  let command := if stdioScheme url then fields (String.ofList (url.toList.drop 8)) else fields url
  command.head?.any w.executable

def schemeIn (schemes : List String) : Bool := (w.parse url).any fun u => schemes.contains u.scheme

def canConnectWebSocket (ended : Bool) : Bool := schemeIn w url ["ws","wss"] && w.dials url && !ended

def canConnectHTTP (ended : Bool) : Bool := schemeIn w url ["http","https"] && w.posts url && !ended

def canConnectSSE (ended : Bool) : Bool :=
  schemeIn w url ["http","https"] && !ended &&
    (w.gets url).any fun contentType => "text/event-stream".toList.isPrefixOf contentType.toList

/-- Only the test of a command does without the context, which may have `ended` before the test is over. -/
def canConnectWithProtocol (ended : Bool) : ClientType → Bool
  | .stdio => canConnectStdio w url
  | .webSocket => canConnectWebSocket w url ended
  | .http => canConnectHTTP w url ended
  | .sse => canConnectSSE w url ended
  | .other _ => false

theorem canConnect_live {ended : Bool} {p : ClientType} (passes : canConnectWithProtocol w url ended p = true) :
    canConnectWithProtocol w url false p = true := by
  cases ended with
  | false => exact passes
  | true => cases p <;> simp_all [canConnectWithProtocol,canConnectWebSocket,canConnectHTTP,canConnectSSE]

end

def hasSSEPattern (u : URL) : Bool := contains u.path "sse" || contains u.path "events" || contains u.path "stream"

def httpHints (u : URL) : List ClientType := if hasSSEPattern u then [.sse,.http] else [.http,.sse]

def analyze (u : URL) : Option (List ClientType) :=
  if u.scheme = "ws" ∨ u.scheme = "wss" then some [.webSocket]
  else if u.scheme = "http" ∨ u.scheme = "https" then some (httpHints u)
  else if u.scheme = "stdio" then some [.stdio]
  else none

def checkCommandPattern (url : String) : Option (List ClientType) :=
  if contains url "://" then none
  else if fields url ≠ [] then some [.stdio]
  else none

def getHints (cfg : AutoDetection) (w : World) (url : String) : List ClientType :=
  if stdioScheme url then [.stdio]
  else (((w.parse url).bind analyze).or (checkCommandPattern url)).getD cfg.preferredOrder

/-- When a context ends. Instant `2 * k` is right before the test `k` of a loop, `2 * k + 1` at its end. -/
def ended (ends : Option Nat) (instant : Nat) : Bool := ends.any (· ≤ instant)

section
variable (w : World) (url : String) (ends : Option Nat)

/-- The first protocol that connects, from the test `k` on. One of the two loops also looks at the context. -/
def firstConnecting (looks : Bool) : Nat → List ClientType → Option ClientType
  | _,[] => none
  | k,p :: rest =>
    if looks && ended ends (2 * k) then none
    else if canConnectWithProtocol w url (ended ends (2 * k + 1)) p then some p
    else if looks && ended ends (2 * k + 1) then none
    else firstConnecting looks (k + 1) rest

def testProtocols (hints : List ClientType) : Option ClientType := firstConnecting w url ends true 0 hints

/-- The loop of `DirectClientManager.DetectProtocol`. -/
def tryInOrder (order : List ClientType) : Option ClientType := firstConnecting w url ends false 0 order

/-- The test of some protocol connects before the loop sees that the context has ended. -/
def Connects (looks : Bool) (protocols : List ClientType) : Prop :=
  ∃ k p, protocols[k]? = some p ∧ (looks && ended ends (2 * k)) = false ∧
    canConnectWithProtocol w url (ended ends (2 * k + 1)) p = true

variable {w url ends} {looks : Bool} {protocols : List ClientType}

theorem ended_mono {first later : Nat} (up : first ≤ later) (over_ : ended ends first = true) :
    ended ends later = true := by
  cases ends with
  | none => exact over_
  | some at_ =>
    simp only [ended,Option.any_some,decide_eq_true_eq] at over_ ⊢
    omega

/-- The loop gets to every test before which it does not stop, unless one connects. -/
theorem firstConnecting_ne_none {from_ k : Nat} {p : ClientType} (at_ : protocols[k]? = some p)
    (live : (looks && ended ends (2 * (from_ + k))) = false)
    (connects : canConnectWithProtocol w url (ended ends (2 * (from_ + k) + 1)) p = true) :
    firstConnecting w url ends looks from_ protocols ≠ none := by
  induction protocols generalizing from_ k with
  | nil => simp at at_
  | cons first rest ih =>
    have early : ∀ instant, instant ≤ 2 * (from_ + k) → (looks && ended ends instant) = false := by
      intro instant before
      cases looks with
      | false => rfl
      | true =>
        by_cases over_ : ended ends instant = true
        · simp [ended_mono before over_] at live
        · simpa using over_
    rw [firstConnecting,early (2 * from_) (by omega)]
    cases k with
    | zero =>
      simp only [getElem?_cons_zero,Option.some.injEq] at at_
      subst at_
      simp only [Nat.add_zero] at connects
      simp [connects]
    | succ k =>
      have shift : from_ + 1 + k = from_ + (k + 1) := by omega
      have again : firstConnecting w url ends looks (from_ + 1) rest ≠ none :=
        ih at_ (by rwa [shift]) (by rwa [shift])
      rw [early (2 * from_ + 1) (by omega)]
      by_cases here : canConnectWithProtocol w url (ended ends (2 * from_ + 1)) first = true <;> simp [here,again]

theorem Connects.found (connects : Connects w url ends looks protocols) :
    firstConnecting w url ends looks 0 protocols ≠ none := by
  obtain ⟨k,p,at_,live,passes⟩ := connects
  rw [← Nat.zero_add k] at live passes
  exact firstConnecting_ne_none at_ live passes

theorem firstConnecting_eq_none (fails : ∀ p ∈ protocols, canConnectWithProtocol w url false p = false) (from_ : Nat) :
    firstConnecting w url ends looks from_ protocols = none := by
  induction protocols generalizing from_ with
  | nil => rfl
  | cons first rest ih =>
    have unconnected : ∀ b, canConnectWithProtocol w url b first ≠ true := by
      intro b connects
      simp [canConnect_live w url connects] at fails
    rw [firstConnecting,if_neg (unconnected _),ih (fun p member => fails p (mem_cons_of_mem _ member))]
    simp

end

/-- A call of `GetClient`, with the ends of the contexts under which it tests the hints and the preferred order. -/
structure Request where
  url : String
  hinted : Option Nat := none
  preferred : Option Nat := none

inductive Stage
  | checkCache
  | performDetection
  | detectProtocol
  | tryPreferredOrder
  | returned (detected : Option ClientType)
  | refused

structure Call where
  request : Request
  stage : Stage

/-- `protocolCache`: a failed detection leaves the empty protocol, here `none`. -/
abbrev ProtocolCache := String → Option (Option ClientType)

structure State where
  running : Bool := true
  protocolCache : ProtocolCache := fun _ => none
  calls : List Call := []

inductive Label
  | getClient (request : Request)
  | advance (i : Nat)
  | expire (url : String)
  | stop
  | cleanupResources

section
variable (cfg : AutoDetection) (w : World)

def hintedTests (r : Request) : Option ClientType := testProtocols w r.url r.hinted (getHints cfg w r.url)

def preferredTests (r : Request) : Option ClientType := tryInOrder w r.url r.preferred cfg.preferredOrder

/-- `ReadCache`, and the reading of the cache in `DirectClientManager.DetectProtocol`. -/
def readCache (cache : ProtocolCache) (url : String) : Option (Option ClientType) :=
  if cfg.cacheResults then cache url else none

def cacheResult (cache : ProtocolCache) (url : String) (detected : Option ClientType) : ProtocolCache :=
  if cfg.cacheResults then update cache url (some detected) else cache

/-- The next stage of a call, up to and including its next use of the cache. -/
def advance (cache : ProtocolCache) (c : Call) : ProtocolCache × Stage :=
  match c.stage with
  | .checkCache =>
    match readCache cfg cache c.request.url with
    | some (some protocol) => (cache,.returned (some protocol))
    | some none => (cache,.detectProtocol)
    | none => (cache,if cfg.enabled then .performDetection else .detectProtocol)
  | .performDetection =>
    let detected := hintedTests cfg w c.request
    (cacheResult cfg cache c.request.url detected,if detected.isSome then .returned detected else .detectProtocol)
  | .detectProtocol =>
    match readCache cfg cache c.request.url with
    | some cached => (cache,.returned cached)
    | none => (cache,if cfg.enabled then .tryPreferredOrder else .returned none)
  | .tryPreferredOrder =>
    let detected := preferredTests cfg w c.request
    (cacheResult cfg cache c.request.url detected,.returned detected)
  | .returned detected => (cache,.returned detected)
  | .refused => (cache,.refused)

/-- The timer of a cache entry may fire at any time, also when the entry was just replaced. -/
def step (s : State) : Label → Option State
  | .getClient r => some { s with calls := s.calls ++ [⟨r,if s.running then .checkCache else .refused⟩] }
  | .advance i =>
    s.calls[i]?.map fun c =>
      let after := advance cfg w s.protocolCache c
      { s with
        protocolCache := after.1
        calls := s.calls.set i ⟨c.request,after.2⟩ }
  | .expire url => some { s with protocolCache := update s.protocolCache url none }
  | .stop => some { s with running := false }
  | .cleanupResources => some { s with protocolCache := fun _ => none }

/-- What the call detects when caching is disabled. -/
def uncached (r : Request) : Option ClientType :=
  let alone := (fun call : ProtocolCache × Stage => advance { cfg with cacheResults := false } w call.1 ⟨r,call.2⟩)^[4]
    (fun _ => none,.checkCache)
  match alone.2 with
  | .returned detected => detected
  | _ => none

/-- Who gets no client would get none without a cache. -/
def Transparent (s : State) : Prop :=
  ∀ c ∈ s.calls, c.stage = .returned none → uncached cfg w c.request = none

/-- No protocol that a call for the URL ever tests connects, even with time left. -/
def Hopeless (url : String) : Prop :=
  ∀ p, p ∈ getHints cfg w url ∨ p ∈ cfg.preferredOrder → canConnectWithProtocol w url false p = false

/-- The step's tests, if any, find a protocol, or there is none to be found. -/
def Conclusive (s : State) : Label → Prop
  | .advance i => ∀ c, s.calls[i]? = some c → Hopeless cfg w c.request.url ∨
      (c.stage = .performDetection → Connects w c.request.url c.request.hinted true (getHints cfg w c.request.url)) ∧
      (c.stage = .tryPreferredOrder → Connects w c.request.url c.request.preferred false cfg.preferredOrder)
  | _ => True

variable {cfg w}

theorem uncached_eq (r : Request) :
    uncached cfg w r = if cfg.enabled then (hintedTests cfg w r).or (preferredTests cfg w r) else none := by
  have hints : getHints { cfg with cacheResults := false } w r.url = getHints cfg w r.url := rfl
  simp [uncached,advance,readCache,cacheResult,hintedTests,preferredTests,hints]
  cases cfg.enabled with
  | false => simp
  | true => cases testProtocols w r.url r.hinted (getHints cfg w r.url) <;> simp

section
variable {r : Request}

theorem Hopeless.hintedTests_eq (hopeless : Hopeless cfg w r.url) : hintedTests cfg w r = none :=
  firstConnecting_eq_none (fun p member => hopeless p (.inl member)) 0

theorem Hopeless.uncached_eq_none (hopeless : Hopeless cfg w r.url) : uncached cfg w r = none := by
  have order : preferredTests cfg w r = none := firstConnecting_eq_none (fun p member => hopeless p (.inr member)) 0
  simp [uncached_eq,hopeless.hintedTests_eq,order]

end

variable (cfg w) in
/-- A call comes to the preferred order only when its hints fail. -/
def Fits (c : Call) : Prop :=
  match c.stage with
  | .detectProtocol | .tryPreferredOrder => cfg.enabled = true → hintedTests cfg w c.request = none
  | .returned none => uncached cfg w c.request = none
  | _ => True

variable (cfg w) in
def Truthful (cache : ProtocolCache) : Prop := ∀ url, cache url = some none → Hopeless cfg w url

section
variable {cache : ProtocolCache} (truthful : Truthful cfg w cache)
include truthful

theorem Truthful.cacheResult {url : String} {detected : Option ClientType}
    (failed : detected = none → Hopeless cfg w url) : Truthful cfg w (cacheResult cfg cache url detected) := by
  intro other empty
  unfold ProtocolDetection.cacheResult at empty
  split at empty
  · by_cases same : other = url
    · subst same
      simp only [update_self,Option.some.injEq] at empty
      exact failed empty
    · rw [update_of_ne same] at empty
      exact truthful other empty
  · exact truthful other empty

theorem Truthful.readCache {url : String} (hit : readCache cfg cache url = some none) : Hopeless cfg w url := by
  unfold ProtocolDetection.readCache at hit
  split at hit
  · exact truthful url hit
  · cases hit

theorem advance_fits {c : Call} (fits : Fits cfg w c) (conclusive : Hopeless cfg w c.request.url ∨
      (c.stage = .performDetection → Connects w c.request.url c.request.hinted true (getHints cfg w c.request.url)) ∧
      (c.stage = .tryPreferredOrder → Connects w c.request.url c.request.preferred false cfg.preferredOrder)) :
    Truthful cfg w (advance cfg w cache c).1 ∧ Fits cfg w ⟨c.request,(advance cfg w cache c).2⟩ := by
  obtain ⟨r,stage⟩ := c
  cases stage with
  | checkCache =>
    simp only [advance]
    split
    · exact ⟨truthful,trivial⟩
    · next hit => exact ⟨truthful,fun _ => (truthful.readCache hit).hintedTests_eq⟩
    · refine ⟨truthful,?_⟩
      cases enabled : cfg.enabled with
      | false => simp [Fits,enabled]
      | true => exact trivial
  | performDetection =>
    refine ⟨truthful.cacheResult fun failed => ?_,?_⟩
    · rcases conclusive with hopeless | ⟨connects,_⟩
      · exact hopeless
      · exact absurd failed (connects rfl).found
    · cases detected : hintedTests cfg w r with
      | none => simp [advance,detected,Fits]
      | some protocol => simp [advance,detected,Fits]
  | detectProtocol =>
    simp only [advance]
    split
    · next cached hit =>
      refine ⟨truthful,?_⟩
      cases cached with
      | none => exact (truthful.readCache hit).uncached_eq_none
      | some protocol => exact trivial
    · refine ⟨truthful,?_⟩
      cases enabled : cfg.enabled with
      | false => simp [Fits,uncached_eq,enabled]
      | true => exact fits
  | tryPreferredOrder =>
    refine ⟨truthful.cacheResult fun failed => ?_,?_⟩
    · rcases conclusive with hopeless | ⟨_,connects⟩
      · exact hopeless
      · exact absurd failed (connects rfl).found
    · cases detected : preferredTests cfg w r with
      | none =>
        have hints : cfg.enabled = true → hintedTests cfg w r = none := fits
        simp only [advance,detected,Fits,uncached_eq]
        split
        · next enabled => simp [hints enabled]
        · rfl
      | some protocol => simp [advance,detected,Fits]
  | returned detected => exact ⟨truthful,fits⟩
  | refused => exact ⟨truthful,fits⟩

end

variable (cfg w) in
def Sound (s : State) : Prop := Truthful cfg w s.protocolCache ∧ ∀ c ∈ s.calls, Fits cfg w c

theorem Sound.step {s next : State} {label : Label} (sound : Sound cfg w s) (conclusive : Conclusive cfg w s label)
    (taken : step cfg w s label = some next) : Sound cfg w next := by
  obtain ⟨truthful,fits⟩ := sound
  cases label with
  | getClient r =>
    cases taken
    refine ⟨truthful,fun c member => ?_⟩
    rcases mem_append.mp member with old | new
    · exact fits c old
    · simp only [mem_singleton] at new
      subst new
      cases s.running <;> exact trivial
  | advance i =>
    obtain ⟨c,at_,rfl⟩ := Option.map_eq_some_iff.mp taken
    obtain ⟨still,fit⟩ := advance_fits truthful (fits c (mem_of_getElem? at_)) (conclusive c at_)
    refine ⟨still,fun other member => ?_⟩
    rcases mem_or_eq_of_mem_set member with old | rfl
    · exact fits other old
    · exact fit
  | expire url =>
    cases taken
    refine ⟨fun other empty => ?_,fits⟩
    by_cases same : other = url
    · simp [same] at empty
    · exact truthful other (by simpa [update_of_ne same] using empty)
  | stop =>
    cases taken
    exact ⟨truthful,fits⟩
  | cleanupResources =>
    cases taken
    exact ⟨nofun,fits⟩

theorem Sound.transparent {s : State} (sound : Sound cfg w s) : Transparent cfg w s := by
  intro c member failed
  have fits : Fits cfg w c := sound.2 c member
  rwa [Fits,failed] at fits

end

/-- If tests end with a protocol whenever there is one, every call detects one that would with caching disabled. -/
theorem detection_transparent (cfg : AutoDetection) (w : World) (labels : List Label)
    (meets : Meets (step cfg w) (Conclusive cfg w) {} labels) : Always (step cfg w) (Transparent cfg w) {} labels := by
  have initial : Sound cfg w {} := ⟨nofun,nofun⟩
  have sound : Always (step cfg w) (Sound cfg w) {} labels :=
    always_of_keeps (fun _ _ _ sound conclusive taken => sound.step conclusive taken) initial meets
  exact sound.imp fun _ sound => sound.transparent

/-! A server that answers POST requests at the URL `http://a`. -/

def answering : World where
  parse _ := some ⟨"http",""⟩
  executable _ := false
  dials _ := false
  posts _ := true
  gets _ := none

def caching : AutoDetection := ⟨true,true,[.http,.webSocket,.stdio,.sse]⟩

/-- A call with time enough finds the protocol, and the next finds it in the cache. -/
theorem detection_transparent_answering :
    Always (step caching answering) (Transparent caching answering) {}
      [.getClient ⟨"http://a",none,none⟩,.advance 0,.advance 0,.getClient ⟨"http://a",some 0,some 0⟩,.advance 1] := by
  have connects : Connects answering "http://a" none true (getHints caching answering "http://a") :=
    ⟨0,.http,by decide,rfl,by decide⟩
  refine detection_transparent _ _ _ ⟨trivial,?_⟩
  rintro _ ⟨⟩
  refine ⟨?_,?_⟩
  · rintro c ⟨⟩
    exact .inr ⟨nofun,nofun⟩
  rintro _ ⟨⟩
  refine ⟨?_,?_⟩
  · rintro c ⟨⟩
    exact .inr ⟨fun _ => connects,nofun⟩
  rintro _ ⟨⟩
  refine ⟨trivial,?_⟩
  rintro _ ⟨⟩
  refine ⟨?_,fun _ _ => trivial⟩
  rintro c ⟨⟩
  exact .inr ⟨nofun,nofun⟩

/-- After a call whose context is cancelled, one with all the time detects nothing. -/
theorem cancelled_poisons : ∃ s, run (step caching answering) {}
      [.getClient ⟨"http://a",some 0,some 0⟩,.advance 0,.advance 0,.advance 0,
        .getClient ⟨"http://a",none,none⟩,.advance 1,.advance 1] = some s ∧ ¬ Transparent caching answering s := by
  refine ⟨_,rfl,fun transparent => ?_⟩
  have failed : uncached caching answering ⟨"http://a",none,none⟩ = none :=
    transparent _ (mem_cons_of_mem _ (mem_singleton_self _)) rfl
  exact absurd failed (by decide)

end McpBridge.ProtocolDetection
