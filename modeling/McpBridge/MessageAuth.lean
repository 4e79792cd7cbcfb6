import McpBridge.Auth

/-!
Per-message authentication (`message_auth.go`). A validated token is cached, and accepted without another look at its
claims.
-/
namespace McpBridge.MessageAuth
open Auth

structure CacheEntry where
  claims : Claims
  expiresAt : Int

abbrev TokenCache := String → Option CacheEntry

/-- `MessageAuthenticator`, with what its provider answers for each token. -/
structure MessageAuthenticator where
  provider : String → Except String Claims
  cacheExpiry : Int

def verifyClaims (claims : Claims) (sessionID : String) (now : Int) : Except GatewayError Unit :=
  if claims.expiresAt.any (· < now) then .error newTokenExpiredError
  else if sessionID ≠ "" ∧ claims.subject ≠ "" ∧ claims.subject ≠ sessionID then
    .error (newInvalidClaimsError "session mismatch")
  else .ok ()

namespace MessageAuthenticator
variable (ma : MessageAuthenticator)

def getFromCache (cache : TokenCache) (token : String) (now : Int) : Option Claims :=
  match cache token with
  | some entry => if now < entry.expiresAt then some entry.claims else none
  | none => none

def tryGetFromCache (cache : TokenCache) (token : String) (now : Int) : Option Claims :=
  if ma.cacheExpiry ≤ 0 then none else getFromCache cache token now

def addToCache (cache : TokenCache) (token : String) (claims : Claims) (now : Int) : TokenCache :=
  let expiresAt := match claims.expiresAt with
    | some exp => if exp < now + ma.cacheExpiry then exp else now + ma.cacheExpiry
    | none => now + ma.cacheExpiry
  Function.update cache token (some ⟨claims,expiresAt⟩)

def tryAddToCache (cache : TokenCache) (token : String) (claims : Claims) (now : Int) : TokenCache :=
  if 0 < ma.cacheExpiry then ma.addToCache cache token claims now else cache

def validateMessageToken (cache : TokenCache) (token sessionID : String) (now : Int) :
    Except GatewayError Unit × TokenCache :=
  if token = "" then (.error newMissingTokenError,cache)
  else match ma.tryGetFromCache cache token now with
    | some _ => (.ok (),cache)
    | none =>
      match ma.provider token with
      | .error cause => (.error (newInvalidTokenError cause),cache)
      | .ok claims =>
        match verifyClaims claims sessionID now with
        | .error e => (.error e,cache)
        | .ok () => (.ok (),ma.tryAddToCache cache token claims now)

def cleanupCache (cache : TokenCache) (now : Int) : TokenCache := fun token =>
  (cache token).filter fun entry => ¬ entry.expiresAt < now

def uncached : MessageAuthenticator := { ma with cacheExpiry := 0 }

/-- The token is accepted. -/
def Accepts (cache : TokenCache) (token sessionID : String) (now : Int) : Prop :=
  (ma.validateMessageToken cache token sessionID now).1 = .ok ()

end MessageAuthenticator

inductive Event where
  | validate (token sessionID : String) (now : Int)
  | cleanup (now : Int)

def next (ma : MessageAuthenticator) (cache : TokenCache) : Event → TokenCache
  | .validate token sessionID now => (ma.validateMessageToken cache token sessionID now).2
  | .cleanup now => MessageAuthenticator.cleanupCache cache now

def after (ma : MessageAuthenticator) (history : List Event) : TokenCache := history.foldl (next ma) fun _ => none

/-- The claims are good for the session. -/
def NamesSession (claims : Claims) (sessionID : String) : Prop :=
  sessionID = "" ∨ claims.subject = "" ∨ claims.subject = sessionID

variable {claims : Claims} {sessionID : String} {now : Int}

theorem verifyClaims_eq_ok : verifyClaims claims sessionID now = .ok () ↔
      (∀ exp, claims.expiresAt = some exp → now ≤ exp) ∧ NamesSession claims sessionID := by
  have unexpired : claims.expiresAt.any (· < now) = false ↔ ∀ exp, claims.expiresAt = some exp → now ≤ exp := by
    cases claims.expiresAt <;> simp
  rw [← unexpired]
  unfold verifyClaims NamesSession
  cases claims.expiresAt.any (· < now) with
  | true => simp
  | false =>
    by_cases mismatch : sessionID ≠ "" ∧ claims.subject ≠ "" ∧ claims.subject ≠ sessionID
    · simp [mismatch]
    · simp only [Bool.false_eq_true,↓reduceIte,if_neg mismatch,true_and,true_iff]
      by_contra none
      exact mismatch ⟨fun h => none (.inl h),fun h => none (.inr (.inl h)),fun h => none (.inr (.inr h))⟩

variable {ma : MessageAuthenticator} {cache : TokenCache} {token : String}

theorem accepts_iff : ma.Accepts cache token sessionID now ↔ token ≠ "" ∧ (ma.tryGetFromCache cache token now = none →
        ∃ claims, ma.provider token = .ok claims ∧ verifyClaims claims sessionID now = .ok ()) := by
  unfold MessageAuthenticator.Accepts MessageAuthenticator.validateMessageToken
  by_cases empty : token = ""
  · simp [empty]
  · cases ma.tryGetFromCache cache token now with
    | some claims => simp [empty]
    | none =>
      cases ma.provider token with
      | error cause => simp [empty]
      | ok claims => cases verified : verifyClaims claims sessionID now <;> simp [empty,verified]

theorem uncached_accepts_iff : ma.uncached.Accepts cache token sessionID now ↔
      token ≠ "" ∧ ∃ claims, ma.provider token = .ok claims ∧
        (∀ exp, claims.expiresAt = some exp → now ≤ exp) ∧ NamesSession claims sessionID := by
  rw [accepts_iff]
  simp [MessageAuthenticator.tryGetFromCache,MessageAuthenticator.uncached,↓reduceIte,verifyClaims_eq_ok]

/-- Every cached token is accepted by the provider, with claims that do not expire before the entry. -/
def Sound (ma : MessageAuthenticator) (cache : TokenCache) : Prop :=
  ∀ token entry, cache token = some entry → token ≠ "" ∧ ma.provider token = .ok entry.claims ∧
    ∀ exp, entry.claims.expiresAt = some exp → entry.expiresAt ≤ exp

theorem addToCache_sound (sound : Sound ma cache)
    (now : Int) (given : token ≠ "") (accepted : ma.provider token = .ok claims) :
    Sound ma (ma.addToCache cache token claims now) := by
  intro other entry found
  simp only [MessageAuthenticator.addToCache,Function.update_apply] at found
  split at found
  · next same =>
    subst same
    cases found
    refine ⟨given,accepted,fun exp known => ?_⟩
    simp only at known
    simp only [known]
    split <;> omega
  · exact sound other entry found

theorem validateMessageToken_sound (sound : Sound ma cache)
    (token sessionID : String) (now : Int) : Sound ma (ma.validateMessageToken cache token sessionID now).2 := by
  unfold MessageAuthenticator.validateMessageToken
  by_cases empty : token = ""
  · rw [if_pos empty]
    exact sound
  · rw [if_neg empty]
    split
    · exact sound
    · split
      · exact sound
      · next claims accepted =>
        split
        · exact sound
        · dsimp only [MessageAuthenticator.tryAddToCache]
          split
          · exact addToCache_sound sound now empty accepted
          · exact sound

theorem cleanupCache_sound (sound : Sound ma cache) (now : Int) :
    Sound ma (MessageAuthenticator.cleanupCache cache now) := by
  intro token entry found
  exact sound token entry (Option.eq_some_of_filter_eq_some found)

theorem after_sound (ma : MessageAuthenticator) (history : List Event) : Sound ma (after ma history) := by
  have kept : ∀ (events : List Event) (cache : TokenCache), Sound ma cache → Sound ma (events.foldl (next ma) cache) := by
    intro events
    induction events with
    | nil => exact fun _ sound => sound
    | cons event rest ih =>
      intro cache sound
      apply ih
      cases event with
      | validate token sessionID now => exact validateMessageToken_sound sound token sessionID now
      | cleanup now => exact cleanupCache_sound sound now
  exact kept history _ (fun _ _ found => by cases found)

theorem tryGetFromCache_sound (sound : Sound ma cache) (found : ma.tryGetFromCache cache token now = some claims) :
    token ≠ "" ∧ ma.provider token = .ok claims ∧ ∀ exp, claims.expiresAt = some exp → now ≤ exp := by
  obtain ⟨-,found⟩ := Option.ite_none_left_eq_some.mp found
  revert found
  fun_cases MessageAuthenticator.getFromCache cache token now <;> rintro ⟨⟩
  case case1 entry listed live =>
    obtain ⟨given,accepted,outlives⟩ := sound token entry listed
    refine ⟨given,accepted,fun exp known => ?_⟩
    have := outlives exp known
    omega

/-- A call accepted from the cache is accepted without it, exactly when the claims under which its token is cached name
    no session or that of the call. -/
theorem cached_accepts_as_uncached_iff (ma : MessageAuthenticator) (history : List Event) (token sessionID : String)
    (now : Int) :
    (ma.Accepts (after ma history) token sessionID now → ma.uncached.Accepts (fun _ => none) token sessionID now) ↔
      ∀ claims, ma.tryGetFromCache (after ma history) token now = some claims → NamesSession claims sessionID := by
  have sound := after_sound ma history
  rw [accepts_iff,uncached_accepts_iff]
  cases cached : ma.tryGetFromCache (after ma history) token now with
  | none =>
    -- without a cached entry the two authenticators do the same
    simp only [true_implies,verifyClaims_eq_ok,reduceCtorEq,false_implies,implies_true,iff_true]
    exact id
  | some claims =>
    obtain ⟨given,accepted,unexpired⟩ := tryGetFromCache_sound sound cached
    simp
    constructor
    · intro agrees
      obtain ⟨_,verified,answer,_,names⟩ := agrees given
      obtain rfl := Except.ok.inj (accepted.symm.trans answer)
      exact names
    · intro names _
      exact ⟨given,claims,accepted,unexpired,names⟩

def oneSession : MessageAuthenticator where
  provider _ := .ok { subject := "first" }
  cacheExpiry := 300 * second

/-- Once validated for its own session, a token is accepted for another while it is cached. -/
theorem cached_token_crosses_sessions :
    oneSession.Accepts (after oneSession [.validate "token" "first" 0]) "token" "second" 1 ∧
      (oneSession.uncached.validateMessageToken (fun _ => none) "token" "second" 1).1 =
        .error (newInvalidClaimsError "session mismatch") := by
  exact ⟨rfl,rfl⟩

end McpBridge.MessageAuth
