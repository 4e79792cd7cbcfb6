import McpBridge.BalancerShares
import McpBridge.WireTransport

/-!
The token cache of the router's OAuth2 client.
-/
namespace McpBridge.OAuthTokens
open Runs Values Transparency Option
open LoadBalancers (int64)
open WireTransport (Payload)

def second : Int := 1000000000

def hour : Int := 3600 * second

/-- `defaultTimeoutSeconds * time.Second` -/
def margin : Int := 30 * second

structure OAuth2Token where
  accessToken : String := ""
  tokenType : String := ""
  /-- `expires_in`, where the response has it. -/
  lifetime : Option Int := none
  refreshToken : String := ""
  scope : String := ""
  expiresAt : Int := 0

/-- `ExpiresIn`, an `int` that is 0 also where the response says nothing. -/
def OAuth2Token.expiresIn (t : OAuth2Token) : Int := t.lifetime.getD 0

def tokenFields : List (StructField OAuth2Token) :=
  [stringField "OAuth2Token" "access_token" fun t text => { t with accessToken := text },
   stringField "OAuth2Token" "token_type" fun t text => { t with tokenType := text },
   intField "OAuth2Token" "expires_in" fun t n => { t with lifetime := some n },
   stringField "OAuth2Token" "refresh_token" fun t text => { t with refreshToken := text },
   stringField "OAuth2Token" "scope" fun t text => { t with scope := text }]

def unmarshalToken : Any → Except String OAuth2Token := decodeStruct "gateway.OAuth2Token" tokenFields {}

def OAuth2Token.isExpired (t : OAuth2Token) (now : Int) : Bool := decide (t.expiresAt - margin < now)

def setTokenExpiration (t : OAuth2Token) (now : Int) : OAuth2Token :=
  { t with expiresAt := now + if 0 < t.expiresIn then int64 (t.expiresIn * second) else hour }

structure AuthConfig where
  tokenEndpoint : String
  grantType : String := "client_credentials"
  clientID : String := ""
  clientSecret : String := ""
  scope : String := ""
  username : String := ""
  password : String := ""
  /-- What `http.NewRequest` has against the URL of the endpoint. -/
  urlErr : Option String := none

structure TokenRequest where
  form : List (String × String)
  basicAuth : Option (String × String)

def setting (name value : String) : List (String × String) := if value = "" then [] else [(name,value)]

section
variable (cfg : AuthConfig)

def prepareClientCredentialsRequest : List (String × String) :=
  [("grant_type","client_credentials")] ++ setting "client_id" cfg.clientID ++ setting "client_secret" cfg.clientSecret ++
    setting "scope" cfg.scope

def preparePasswordRequest : List (String × String) :=
  [("grant_type","password"),("username",cfg.username),("password",cfg.password)] ++ setting "client_id" cfg.clientID ++
    setting "client_secret" cfg.clientSecret ++ setting "scope" cfg.scope

def prepareRefreshRequest (refreshToken : String) : List (String × String) :=
  [("grant_type","refresh_token"),("refresh_token",refreshToken)] ++ setting "client_id" cfg.clientID ++
    setting "client_secret" cfg.clientSecret

def validateConfig : Except String Unit :=
  if cfg.tokenEndpoint = "" then .error "OAuth2 token endpoint not configured" else .ok ()

def prepareRequestBody : Except String (List (String × String)) :=
  if cfg.grantType = "client_credentials" then .ok (prepareClientCredentialsRequest cfg)
  else if cfg.grantType = "password" then .ok (preparePasswordRequest cfg)
  else .error ("unsupported OAuth2 grant type: " ++ cfg.grantType)

/-- `http.NewRequestWithContext`, under the name of what it is for. -/
def newRequest (purpose : String) (request : TokenRequest) : Except String TokenRequest :=
  match cfg.urlErr with
  | some err => .error ("failed to create " ++ purpose ++ " request: " ++ err)
  | none => .ok request

def createTokenRequest (form : List (String × String)) : Except String TokenRequest :=
  newRequest cfg "token" ⟨form,if cfg.clientID ≠ "" ∧ cfg.clientSecret ≠ "" then some (cfg.clientID,cfg.clientSecret) else none⟩

def createRefreshRequest (form : List (String × String)) : Except String TokenRequest := newRequest cfg "refresh" ⟨form,none⟩

/-- The request of `AcquireToken`, up to the point where it is sent. -/
def tokenRequest : Except String TokenRequest := do
  validateConfig cfg
  let form ← prepareRequestBody cfg
  createTokenRequest cfg form

/-- The request of `RefreshToken`, up to the point where it is sent. -/
def refreshRequest (refreshToken : String) : Except String TokenRequest := do
  validateConfig cfg
  createRefreshRequest cfg (prepareRefreshRequest cfg refreshToken)

end

/-- An error of the exchange, an error in reading the body, or a response, with its body also as text. -/
inductive Reply where
  | failed (err : String)
  | unread (err : String)
  | response (status : Nat) (body : Payload) (text : String)

structure Exchange where
  reply : Reply
  time : Int

def parseTokenResponse (body : Payload) (now : Int) : Except String OAuth2Token :=
  match body.unmarshal unmarshalToken with
  | .error err => .error ("failed to parse token response: " ++ err)
  | .ok token => .ok (setTokenExpiration token now)

def executeTokenRequest (exchange : Exchange) : Except String OAuth2Token :=
  match exchange.reply with
  | .failed err => .error ("token request failed: " ++ err)
  | .unread err => .error ("failed to read token response: " ++ err)
  | .response status body text =>
    if status ≠ 200 then .error ("token request failed with status " ++ toString status ++ ": " ++ text)
    else parseTokenResponse body exchange.time

/-- A call: when it looks at the cache without and with the lock, and the replies to its requests. -/
structure Call where
  first : Int
  second : Int
  refresh : Exchange
  acquire : Exchange

/-- What a call or a part of it comes to: its result, the token it has assigned, its requests and the time. -/
structure Got (α : Type) where
  result : Except String α
  assigned : Option OAuth2Token
  requests : List TokenRequest
  time : Int

/-- A request that is made, if it can be made, and the token that comes of it. -/
def exchangeToken (request : Except String TokenRequest) (exchange : Exchange) : Got OAuth2Token :=
  match request with
  | .error err => ⟨.error err,none,[],exchange.time⟩
  | .ok request => ⟨executeTokenRequest exchange,(executeTokenRequest exchange).toOption,[request],exchange.time⟩

def acquireNewToken (cfg : AuthConfig) (call : Call) : Got OAuth2Token :=
  let got := exchangeToken (tokenRequest cfg) call.acquire
  { got with result := got.result.mapError ("failed to acquire OAuth2 token: " ++ ·) }

def attemptTokenRefresh (cfg : AuthConfig) (refreshToken : String) (call : Call) : Got OAuth2Token :=
  exchangeToken (refreshRequest cfg refreshToken) call.refresh

def refreshOrAcquireNewToken (cfg : AuthConfig) (token : Option OAuth2Token) (call : Call) : Got OAuth2Token :=
  match token with
  | none => acquireNewToken cfg call
  | some t =>
    if t.refreshToken = "" then acquireNewToken cfg call
    else
      let refreshed := attemptTokenRefresh cfg t.refreshToken call
      match refreshed.result with
      | .ok _ => refreshed
      | .error _ =>
        let got := acquireNewToken cfg call
        { got with requests := refreshed.requests ++ got.requests }

def usable (token : Option OAuth2Token) (now : Int) : Option OAuth2Token := token.filter fun t => !t.isExpired now

def getValidTokenIfExists (token : Option OAuth2Token) (now : Int) : String :=
  ((usable token now).map (·.accessToken)).getD ""

def acquireOrRefreshToken (cfg : AuthConfig) (token : Option OAuth2Token) (call : Call) : Got String :=
  match usable token call.second with
  | some t => ⟨.ok t.accessToken,none,[],call.second⟩
  | none =>
    let got := refreshOrAcquireNewToken cfg token call
    { got with result := got.result.map (·.accessToken) }

def getToken (cfg : AuthConfig) (token : Option OAuth2Token) (call : Call) : Got String :=
  if getValidTokenIfExists token call.first ≠ "" then ⟨.ok (getValidTokenIfExists token call.first),none,[],call.first⟩
  else acquireOrRefreshToken cfg token call

/-! ### The cache over time -/

def OAuth2Token.life (t : OAuth2Token) : Int :=
  match t.lifetime with
  | some n => n * second
  | none => hour

structure Answer where
  value : String
  time : Int
  expiry : Int

structure State where
  token : Option OAuth2Token := none
  now : Int
  received : Int := 0
  /-- The access tokens of the endpoint, and the last refresh token. -/
  issued : List String := []
  refresh : Option String := none
  answers : List Answer := []

def Call.InOrder (now : Int) (call : Call) : Prop :=
  now ≤ call.first ∧ call.first ≤ call.second ∧ call.second ≤ call.refresh.time ∧ call.refresh.time ≤ call.acquire.time

instance (now : Int) (call : Call) : Decidable (call.InOrder now) := inferInstanceAs (Decidable (_ ∧ _))

/-- The endpoint has issued a token. -/
def State.receive (s : State) (token : OAuth2Token) (time : Int) : State :=
  { s with
    token := some token
    received := time
    issued := token.accessToken :: s.issued
    refresh := if token.refreshToken = "" then s.refresh else some token.refreshToken }

/-- `GetToken` has returned a token, which is the cached one. -/
def State.answer (s : State) (value : String) (time : Int) : State :=
  { s with answers := ⟨value,time,s.received + (s.token.map (·.life)).getD 0⟩ :: s.answers }

/-- One call of `getToken`, noted. -/
def step (cfg : AuthConfig) (s : State) (call : Call) : Option State :=
  if call.InOrder s.now then
    let got := getToken cfg s.token call
    let held := match got.assigned with
      | some token => s.receive token got.time
      | none => s
    let answered := match got.result with
      | .ok value => held.answer value got.time
      | .error _ => held
    some { answered with now := got.time }
  else none

open OAuth2Token

section
variable {cfg : AuthConfig}

/-- The cache hands out a token of the endpoint that is good for some time yet, asks for no other before the margin, and
    has the refresh token that the endpoint gave last. -/
structure Honest (cfg : AuthConfig) (s : State) : Prop where
  answers : ∀ a ∈ s.answers, a.value ≠ "" ∧ a.value ∈ s.issued ∧ a.time < a.expiry
  frugal : ∀ t, s.token = some t → ∀ call : Call, call.InOrder s.now → call.second ≤ s.received + t.life - margin →
    (getToken cfg s.token call).requests = []
  kept : ∀ r, s.refresh = some r → ∃ t, s.token = some t ∧ t.refreshToken = r

/-! ### The replies that a call takes -/

def Asks (token : Option OAuth2Token) (call : Call) : Prop :=
  getValidTokenIfExists token call.first = "" ∧ usable token call.second = none

def Refreshes (cfg : AuthConfig) (token : Option OAuth2Token) : Prop :=
  ∃ t request, token = some t ∧ t.refreshToken ≠ "" ∧ refreshRequest cfg t.refreshToken = .ok request

/-- The exchange is one that a call with the cached token comes to, when it asks. -/
inductive Comes (cfg : AuthConfig) (token : Option OAuth2Token) (call : Call) : Exchange → Prop where
  | refresh (may : Refreshes cfg token) : Comes cfg token call call.refresh
  | acquire (unrefreshed : Refreshes cfg token → ∀ t, executeTokenRequest call.refresh ≠ .ok t)
    (may : ∃ request, tokenRequest cfg = .ok request) : Comes cfg token call call.acquire

/-- A token that the cache can work with. -/
def Fit (s : State) (t : OAuth2Token) : Prop :=
  t.accessToken ≠ "" ∧ (∀ n, t.lifetime = some n → 0 < n ∧ n ≤ 9223372036) ∧ (t.refreshToken = "" → s.refresh = none)

/-- Every token response that the call takes has a token that the cache can work with. -/
def Served (cfg : AuthConfig) (s : State) (call : Call) : Prop :=
  Asks s.token call → ∀ exchange, Comes cfg s.token call exchange → ∀ t, executeTokenRequest exchange = .ok t → Fit s t

variable {token : Option OAuth2Token} {call : Call} {exchange : Exchange} {t : OAuth2Token}

theorem exchangeToken_cases (request : Except String TokenRequest) (exchange : Exchange) :
    (∃ t r, request = .ok r ∧ executeTokenRequest exchange = .ok t ∧
      exchangeToken request exchange = ⟨.ok t,some t,[r],exchange.time⟩) ∨
    (∀ r, request = .ok r → ∀ t, executeTokenRequest exchange ≠ .ok t) ∧
      ∃ err requests, exchangeToken request exchange = ⟨.error err,none,requests,exchange.time⟩ := by
  unfold exchangeToken
  cases request with
  | error err => exact .inr ⟨nofun,_,_,rfl⟩
  | ok request =>
    cases replied : executeTokenRequest exchange with
    | error err => exact .inr ⟨nofun,_,_,rfl⟩
    | ok t => exact .inl ⟨t,request,rfl,rfl,rfl⟩

/-- The token of an exchange that the call comes to, or an error. -/
def Settles (cfg : AuthConfig) (token : Option OAuth2Token) (call : Call) (got : Got OAuth2Token) : Prop :=
  (∃ exchange t requests, Comes cfg token call exchange ∧ executeTokenRequest exchange = .ok t ∧
    got = ⟨.ok t,some t,requests,exchange.time⟩) ∨ ∃ err requests, got = ⟨.error err,none,requests,call.acquire.time⟩

theorem acquireNewToken_settles (before : List TokenRequest)
    (unrefreshed : Refreshes cfg token → ∀ t, executeTokenRequest call.refresh ≠ .ok t) : Settles cfg token call
      { acquireNewToken cfg call with requests := before ++ (acquireNewToken cfg call).requests } := by
  unfold acquireNewToken
  rcases exchangeToken_cases (tokenRequest cfg) call.acquire with ⟨t,request,asked,replied,same⟩ | ⟨_,err,_,same⟩
  · rw [same]
    exact .inl ⟨_,t,_,.acquire unrefreshed ⟨request,asked⟩,replied,rfl⟩
  · rw [same]
    exact .inr ⟨_,_,rfl⟩

theorem refreshOrAcquireNewToken_settles (cfg : AuthConfig) (token : Option OAuth2Token) (call : Call) :
    Settles cfg token call (refreshOrAcquireNewToken cfg token call) := by
  cases token with
  | none => exact acquireNewToken_settles [] nofun
  | some t =>
    rw [refreshOrAcquireNewToken]
    by_cases without : t.refreshToken = ""
    · rw [if_pos without]
      exact acquireNewToken_settles [] fun ⟨_,_,same,held,_⟩ => absurd (some.inj same ▸ without) held
    · rw [if_neg without]
      rcases exchangeToken_cases (refreshRequest cfg t.refreshToken) call.refresh with
        ⟨u,request,asked,replied,same⟩ | ⟨missed,err,_,same⟩
      · simp only [attemptTokenRefresh,same]
        exact .inl ⟨_,u,_,.refresh ⟨t,request,rfl,without,asked⟩,replied,rfl⟩
      · simp only [attemptTokenRefresh,same]
        exact acquireNewToken_settles _ fun ⟨_,_,held,_,asked⟩ => missed _ (some.inj held ▸ asked)

/-- All that `GetToken` can do. -/
theorem getToken_cases (cfg : AuthConfig) (token : Option OAuth2Token) (call : Call) :
    (∃ t time, (time = call.first ∨ time = call.second) ∧ usable token time = some t ∧
      getToken cfg token call = ⟨.ok t.accessToken,none,[],time⟩) ∨
    (Asks token call ∧ ∃ exchange t requests, Comes cfg token call exchange ∧ executeTokenRequest exchange = .ok t ∧
      getToken cfg token call = ⟨.ok t.accessToken,some t,requests,exchange.time⟩) ∨
    (Asks token call ∧ ∃ err requests, getToken cfg token call = ⟨.error err,none,requests,call.acquire.time⟩) := by
  by_cases early : getValidTokenIfExists token call.first = ""
  · have late : getToken cfg token call = acquireOrRefreshToken cfg token call := if_neg (not_not.mpr early)
    cases stale : usable token call.second with
    | some t =>
      refine .inl ⟨t,call.second,.inr rfl,stale,?_⟩
      rw [late,acquireOrRefreshToken,stale]
    | none =>
      rw [late,acquireOrRefreshToken,stale]
      rcases refreshOrAcquireNewToken_settles cfg token call with ⟨exchange,t,requests,comes,replied,same⟩ | ⟨err,requests,same⟩
      · rw [same]
        exact .inr (.inl ⟨⟨early,stale⟩,exchange,t,requests,comes,replied,rfl⟩)
      · rw [same]
        exact .inr (.inr ⟨⟨early,stale⟩,err,requests,rfl⟩)
  · cases found : usable token call.first with
    | none => exact absurd (by rw [getValidTokenIfExists,found]; rfl) early
    | some t =>
      refine .inl ⟨t,call.first,.inl rfl,found,?_⟩
      have same : getValidTokenIfExists token call.first = t.accessToken := by rw [getValidTokenIfExists,found]; rfl
      rw [getToken,if_pos early,same]

theorem getToken_requests_of_not_asks (held : ¬ Asks token call) : (getToken cfg token call).requests = [] := by
  rcases getToken_cases cfg token call with ⟨_,_,_,_,same⟩ | ⟨asks,_⟩ | ⟨asks,_⟩
  · rw [same]
  all_goals exact absurd asks held

variable {now : Int}

theorem usable_eq_some_iff : usable token now = some t ↔ token = some t ∧ now ≤ t.expiresAt - margin := by
  simp [usable,filter_eq_some_iff,isExpired]

theorem expiresAt_of_execute (replied : executeTokenRequest exchange = .ok t) :
    t.expiresAt = exchange.time + if 0 < t.expiresIn then int64 (t.expiresIn * second) else hour := by
  unfold executeTokenRequest at replied
  split at replied
  · cases replied
  · cases replied
  next status body text _ =>
    split at replied
    · cases replied
    · unfold parseTokenResponse at replied
      split at replied <;> cases replied
      rfl

theorem Comes.time_le (comes : Comes cfg token call exchange) (order : call.InOrder now) : now ≤ exchange.time := by
  obtain ⟨h₁,h₂,h₃,h₄⟩ := order
  cases comes with
  | refresh _ => exact (h₁.trans h₂).trans h₃
  | acquire _ _ => exact ((h₁.trans h₂).trans h₃).trans h₄

variable {s next : State}

theorem step_cases (taken : step cfg s call = some next) :
    (∃ t time, s.now ≤ time ∧ usable s.token time = some t ∧ next = { s.answer t.accessToken time with now := time }) ∨
    (Asks s.token call ∧ ∃ exchange t, s.now ≤ exchange.time ∧ Comes cfg s.token call exchange ∧
      executeTokenRequest exchange = .ok t ∧
      next = { (s.receive t exchange.time).answer t.accessToken exchange.time with now := exchange.time }) ∨
    (s.now ≤ call.acquire.time ∧ next = { s with now := call.acquire.time }) := by
  unfold step at taken
  by_cases order : call.InOrder s.now
  · rw [if_pos order] at taken
    rcases getToken_cases cfg s.token call with ⟨t,time,reading,found,same⟩ | ⟨asks,exchange,t,requests,comes,replied,same⟩ |
      ⟨_,err,requests,same⟩
    · rw [same] at taken
      refine .inl ⟨t,time,?_,found,(some.inj taken).symm⟩
      rcases reading with rfl | rfl
      · exact order.1
      · exact order.1.trans order.2.1
    · rw [same] at taken
      exact .inr (.inl ⟨asks,exchange,t,comes.time_le order,comes,replied,(some.inj taken).symm⟩)
    · rw [same] at taken
      have later : s.now ≤ call.acquire.time := ((order.1.trans order.2.1).trans order.2.2.1).trans order.2.2.2
      exact .inr (.inr ⟨later,(some.inj taken).symm⟩)
  · rw [if_neg order] at taken
    cases taken

/-! ### What the cache knows of its token -/

structure Sound (s : State) : Prop where
  dated : ∀ t, s.token = some t →
    t.expiresAt = s.received + if 0 < t.expiresIn then int64 (t.expiresIn * second) else hour
  answered : ∀ t, s.token = some t → ⟨t.accessToken,s.received,s.received + t.life⟩ ∈ s.answers

theorem Sound.kept (sound : Sound s) (taken : step cfg s call = some next) : Sound next := by
  rcases step_cases taken with ⟨t,time,later,found,rfl⟩ | ⟨_,exchange,t,later,comes,replied,rfl⟩ | ⟨later,rfl⟩
  · exact ⟨sound.dated,fun u cached => .tail _ (sound.answered u cached)⟩
  · refine ⟨?_,?_⟩
    · intro u cached
      cases cached
      exact expiresAt_of_execute replied
    · intro u cached
      cases cached
      exact .head _
  · exact ⟨sound.dated,sound.answered⟩

variable {x : Int}

theorem int64_le (positive : 0 ≤ x) : int64 x ≤ x := by
  rw [int64,Int.bmod_def]
  split <;> omega

theorem int64_eq_self (positive : 0 ≤ x) (small : x < 2 ^ 63) : int64 x = x := by
  rw [int64,Int.bmod_def]
  split <;> omega

theorem Sound.expiresAt_le (sound : Sound s) (cached : s.token = some t)
    (alive : 0 < t.life) : t.expiresAt ≤ s.received + t.life := by
  rw [sound.dated t cached]
  unfold life at alive ⊢
  unfold expiresIn
  cases said : t.lifetime with
  | none => exact Int.le_refl _
  | some n =>
    rw [said] at alive
    simp only [second] at alive
    have positive : 0 < n := by omega
    rw [getD_some,if_pos positive]
    exact Int.add_le_add_left (int64_le (by simp only [second]; omega)) _

theorem Sound.expiresAt_eq (sound : Sound s) (cached : s.token = some t)
    (fits : ∀ n, t.lifetime = some n → 0 < n ∧ n ≤ 9223372036) : t.expiresAt = s.received + t.life := by
  rw [sound.dated t cached]
  unfold life expiresIn
  cases said : t.lifetime with
  | none => rfl
  | some n =>
    obtain ⟨positive,small⟩ := fits n said
    rw [getD_some,if_pos positive,int64_eq_self]
    all_goals
      simp only [second]
      omega

theorem not_asks_of_early (early : call.second ≤ t.expiresAt - margin) : ¬ Asks (some t) call := by
  rintro ⟨_,stale⟩
  rw [usable_eq_some_iff.mpr ⟨rfl,early⟩] at stale
  cases stale

variable {time : Int}

theorem honest_of_fit (honest : Honest cfg s)
    (sound' : Sound { (s.receive t time).answer t.accessToken time with now := time }) (fit : Fit s t) :
    Honest cfg { (s.receive t time).answer t.accessToken time with now := time } := by
  obtain ⟨given,fits,unrefreshed⟩ := fit
  have life_pos : 0 < t.life := by
    unfold life
    split
    next n said =>
      have := (fits n said).1
      simp only [second]
      omega
    · decide
  refine ⟨?_,?_,?_⟩
  · intro a member
    rcases List.mem_cons.mp member with rfl | before
    · exact ⟨given,.head _,Int.lt_add_of_pos_right _ life_pos⟩
    · obtain ⟨ne,issued,alive⟩ := honest.answers a before
      exact ⟨ne,.tail _ issued,alive⟩
  · intro u cached call order early
    have until' := sound'.expiresAt_eq cached (by cases cached; exact fits)
    rw [cached]
    refine getToken_requests_of_not_asks (not_asks_of_early ?_)
    rw [until']
    exact early
  · intro r latest
    refine ⟨t,rfl,?_⟩
    have refresh : (if t.refreshToken = "" then s.refresh else some t.refreshToken) = some r := latest
    split at refresh
    next without =>
      rw [unrefreshed without] at refresh
      cases refresh
    · exact some.inj refresh

theorem Honest.later (honest : Honest cfg s) (later : s.now ≤ time) : Honest cfg { s with now := time } :=
  ⟨honest.answers,fun t cached call order => honest.frugal t cached call ⟨later.trans order.1,order.2⟩,honest.kept⟩

theorem Honest.answer {s : State} {t : OAuth2Token} {time : Int} (honest : Honest cfg s) (sound : Sound s)
    (found : usable s.token time = some t) : Honest cfg (s.answer t.accessToken time) := by
  obtain ⟨cached,early⟩ := usable_eq_some_iff.mp found
  obtain ⟨ne,issued,alive⟩ := honest.answers _ (sound.answered t cached)
  refine ⟨fun a member => ?_,honest.frugal,honest.kept⟩
  rcases List.mem_cons.mp member with rfl | before
  · refine ⟨ne,issued,?_⟩
    have granted : s.received < s.received + t.life := alive
    have ends := sound.expiresAt_le cached (by omega)
    have same : (s.token.map (·.life)).getD 0 = t.life := by rw [cached]; rfl
    show time < s.received + (s.token.map (·.life)).getD 0
    simp only [margin,second] at early
    omega
  · exact honest.answers a before

theorem Honest.step (honest : Honest cfg s) (sound : Sound s) (served : Served cfg s call)
    (taken : step cfg s call = some next) : Honest cfg next := by
  have sound' := sound.kept taken
  rcases step_cases taken with ⟨t,time,later,found,rfl⟩ | ⟨asks,exchange,t,later,comes,replied,rfl⟩ | ⟨later,rfl⟩
  · exact (honest.answer sound found).later later
  · exact honest_of_fit honest sound' (served asks exchange comes t replied)
  · exact honest.later later

/-- The cache does what it is for as long as every token response that it takes has an access token, a positive lifetime
    that a duration can hold, if any, and a refresh token, if there was one before. -/
theorem tokens_honest {now : Int} {calls : List Call} (meets : Meets (step cfg) (Served cfg) { now := now } calls) :
    Always (step cfg) (Honest cfg) { now := now } calls := by
  have initial : Honest cfg { now := now } ∧ Sound { now := now } := ⟨⟨nofun,nofun,nofun⟩,nofun,nofun⟩
  have kept : ∀ s call next, Honest cfg s ∧ Sound s → Served cfg s call → step cfg s call = some next →
      Honest cfg next ∧ Sound next :=
    fun _ _ _ both served taken => ⟨both.1.step both.2 served taken,both.2.kept taken⟩
  exact (always_of_keeps kept initial meets).imp fun _ both => both.1

end

def client : AuthConfig := { tokenEndpoint := "/token", clientID := "router", clientSecret := "s" }

def asking (body : Any) : Call := ⟨0,0,⟨.failed "EOF",second⟩,⟨.response 200 (.json body) "",second⟩⟩

def bearer : Any := .object [("access_token",.string "a"),("expires_in",.number 3600)]

theorem tokens_honest_bearer :
    (∃ t, run (step client) { now := 0 } [asking bearer] = some t ∧ t.answers.map (·.value) = ["a"]) ∧
      Always (step client) (Honest client) { now := 0 } [asking bearer] := by
  have granted : (run (step client) { now := 0 } [asking bearer]).map (fun t => t.answers.map (·.value)) = some ["a"] := by
    decide +kernel
  obtain ⟨t,executed,answers⟩ := map_eq_some_iff.mp granted
  refine ⟨⟨t,executed,answers⟩,tokens_honest ⟨?_,fun _ _ => trivial⟩⟩
  intro _ exchange comes token replied
  cases comes with
  | refresh may =>
    obtain ⟨_,_,none,_⟩ := may
    cases none
  | acquire _ _ =>
    cases replied
    refine ⟨by decide,fun n said => ?_,fun _ => rfl⟩
    cases said
    decide

/-- An empty response with status 200 is taken for a token, and the empty access token is handed out. -/
theorem empty_handed : (run (step client) { now := 0 } [asking (.object [])]).isSome ∧
      ¬ Always (step client) (Honest client) { now := 0 } [asking (.object [])] := by
  have granted : (run (step client) { now := 0 } [asking (.object [])]).map (fun t => t.answers.map (·.value)) = some [""] := by
    decide +kernel
  obtain ⟨t,executed,answers⟩ := map_eq_some_iff.mp granted
  refine ⟨by rw [executed]; rfl,fun always => ?_⟩
  have honest : Honest client t := always.last executed
  cases held : t.answers with
  | nil =>
    rw [held] at answers
    cases answers
  | cons a rest =>
    rw [held] at answers
    have nothing : a.value = "" := (List.cons.inj answers).1
    exact (honest.answers a (held ▸ .head _)).1 nothing

end McpBridge.OAuthTokens
