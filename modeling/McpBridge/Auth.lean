import McpBridge.Outcomes

/-!
The claims of a client and the providers that validate them (`provider.go`, `oauth2.go`). A claim that a token may leave
out is optional here; reading it through its pointer panics when it is missing.
-/
namespace McpBridge.Auth
open Outcomes

def second : Int := 1000000000
def minute : Int := 60 * second
def hour : Int := 60 * minute

def newNumericDate (t : Int) : Int := t - t % second

structure RateLimitConfig where
  requestsPerMinute : Int := 0
  burst : Int := 0
  deriving DecidableEq, Repr

/-- `auth.Claims`, with the registered claims that the gateway reads. -/
structure Claims where
  subject : String := ""
  issuer : String := ""
  audience : List String := []
  expiresAt : Option Int := none
  notBefore : Option Int := none
  issuedAt : Option Int := none
  id : String := ""
  scopes : List String := []
  rateLimit : RateLimitConfig := {}
  deriving DecidableEq, Repr

namespace Claims

end Claims

/-- `errors.GatewayError`, as far as the gateway reads it back. -/
structure GatewayError where
  type : String
  message : String
  component : String
  code : String
  httpStatus : Nat
  deriving DecidableEq, Repr

/-- The errors of the `auth` package that answer 401. -/
def unauthorized (message code : String) : GatewayError := ⟨"UNAUTHORIZED",message,"auth",code,401⟩

def newInvalidTokenError (reason : String) : GatewayError := unauthorized ("invalid token: " ++ reason) "AUTH_INVALID_TOKEN"
def newTokenExpiredError : GatewayError := unauthorized "token has expired" "AUTH_TOKEN_EXPIRED"
def newMissingTokenError : GatewayError := unauthorized "authentication token is required" "AUTH_MISSING_TOKEN"
def newInvalidClaimsError (claim : String) : GatewayError := unauthorized ("invalid claim: " ++ claim) "AUTH_INVALID_CLAIMS"

def noOpClaims (now : Int) : Claims where
  subject := "anonymous"
  expiresAt := some (newNumericDate (now + 24 * hour))
  issuedAt := some (newNumericDate now)
  rateLimit := ⟨10000,100⟩

/-- A JWT provider, with `jwt.ParseWithClaims` under its keys: the claims and whether the token is valid, or an error. -/
structure JWTProvider where
  issuer : String := ""
  audience : String := ""
  parseWithClaims : String → Int → Except String (Claims × Bool)

namespace JWTProvider
variable (p : JWTProvider)

def parseToken (token : String) (now : Int) : Except String Claims :=
  match p.parseWithClaims token now with
  | .error cause => .error ("failed to parse token: " ++ cause)
  | .ok (_,false) => .error "invalid token"
  | .ok (claims,true) => .ok claims

def validateTimeBasedClaims (claims : Claims) (now : Int) : Except String Unit :=
  if claims.expiresAt.any (· < now) then .error "token expired"
  else if claims.notBefore.any (now < ·) then .error "token not yet valid"
  else .ok ()

def validateIssuer (claims : Claims) : Except String Unit :=
  if p.issuer ≠ "" ∧ claims.issuer ≠ p.issuer then .error ("invalid issuer: " ++ claims.issuer) else .ok ()

def validateAudience (claims : Claims) : Except String Unit :=
  if p.audience = "" ∨ p.audience ∈ claims.audience then .ok () else .error "invalid audience"

def validateClaims (claims : Claims) (now : Int) : Except String Unit := do
  validateTimeBasedClaims claims now
  p.validateIssuer claims
  p.validateAudience claims

def setDefaultRateLimit (claims : Claims) : Claims :=
  if claims.rateLimit.requestsPerMinute = 0 then { claims with rateLimit := ⟨1000,50⟩ } else claims

/-- The log entry evaluates `claims.ExpiresAt.Time`. -/
def logTokenValidation (claims : Claims) : Outcome Int := Outcome.deref claims.expiresAt

def validateToken (token : String) (now : Int) : Outcome Claims := do
  let claims ← Outcome.ofExcept (p.parseToken token now)
  Outcome.ofExcept (p.validateClaims claims now)
  let claims := setDefaultRateLimit claims
  let _ ← logTokenValidation claims
  pure claims

end JWTProvider

structure Introspection where
  active : Bool := false
  scope : String := ""
  exp : Int := 0
  iat : Int := 0
  sub : String := ""
  aud : List String := []
  iss : String := ""
  jti : String := ""

structure CachedIntrospection where
  claims : Claims
  expiresAt : Int

abbrev IntrospectionCache := String → Option CachedIntrospection

/-- An OAuth2 provider, with its introspection endpoint and `fmt.Sscanf(_, "%d", _)`. -/
structure OAuth2Provider where
  jwksEndpoint : String := ""
  introspectToken : String → Int → Except String Introspection
  scanInt : String → Option Int

def isSpace (c : Char) : Bool :=
  [0x9,0xa,0xb,0xc,0xd,0x20,0x85,0xa0,0x1680,0x2028,0x2029,0x202f,0x205f,0x3000].contains c.toNat ||
    (0x2000 ≤ c.toNat && c.toNat ≤ 0x200a)

def fields (text : String) : List String := ((text.toList.splitOnP isSpace).filter (· ≠ [])).map String.ofList

def split (text : String) (at_ : Char) : List String := (text.toList.splitOn at_).map String.ofList

namespace OAuth2Provider
variable (p : OAuth2Provider)

/-- A scope `rate_limit:rpm:burst` sets the limits whose number can be read. -/
def applyRateLimitScope (limit : RateLimitConfig) (scope : String) : RateLimitConfig :=
  match split scope ':' with
  | ["rate_limit",rpm,burst] =>
    ⟨(p.scanInt rpm).getD limit.requestsPerMinute,(p.scanInt burst).getD limit.burst⟩
  | _ => limit

def introspectionToClaims (i : Introspection) : Claims where
  subject := i.sub
  issuer := i.iss
  id := i.jti
  audience := i.aud
  expiresAt := some (newNumericDate (i.exp * second))
  issuedAt := some (newNumericDate (i.iat * second))
  scopes := fields i.scope
  rateLimit := (fields i.scope).foldl p.applyRateLimitScope ⟨1000,50⟩

def validateJWT (_ : String) : Except String Claims := .error "JWKS validation not implemented"

def getCachedClaims (cache : IntrospectionCache) (token : String) (now : Int) : Option Claims :=
  match cache token with
  | none => none
  | some cached => if cached.expiresAt < now then none else some cached.claims

def cacheIntrospection (cache : IntrospectionCache) (token : String) (claims : Claims) (now : Int) :
    IntrospectionCache :=
  let expiresAt := match claims.expiresAt with
    | some exp => min exp (now + 5 * minute)
    | none => now + 5 * minute
  Function.update cache token (some ⟨claims,expiresAt⟩)

def introspect (cache : IntrospectionCache) (token : String) (now : Int) : Outcome Claims × IntrospectionCache :=
  match p.introspectToken token now with
  | .error cause => (.error ("token introspection failed: " ++ cause),cache)
  | .ok i =>
    if i.active then
      (.value (p.introspectionToClaims i),cacheIntrospection cache token (p.introspectionToClaims i) now)
    else (.error "token is not active",cache)

def validateToken (cache : IntrospectionCache) (token : String) (now : Int) : Outcome Claims × IntrospectionCache :=
  match getCachedClaims cache token now with
  | some claims => (.value claims,cache)
  | none =>
    if p.jwksEndpoint = "" then p.introspect cache token now
    else match validateJWT token with
      | .ok claims => (.value claims,cacheIntrospection cache token claims now)
      | .error _ => p.introspect cache token now

end OAuth2Provider

inductive Provider where
  | noOp
  | jwt (p : JWTProvider)
  | oauth2 (p : OAuth2Provider)

/-- `Provider.ValidateToken`. The cache is the OAuth2 provider's. -/
def Provider.validateToken (provider : Provider) (cache : IntrospectionCache) (token : String) (now : Int) :
    Outcome Claims × IntrospectionCache :=
  match provider with
  | .noOp => (.value (noOpClaims now),cache)
  | .jwt p => (p.validateToken token now,cache)
  | .oauth2 p => p.validateToken cache token now

end McpBridge.Auth
