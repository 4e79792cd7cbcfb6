import McpBridge.Auth

/-!
Sessions and the managers that keep them (`session/manager.go`, `session/memory_manager.go`), and how claims become
sessions. Both managers read the expiry of the claims through its pointer, which the TCP frontend does not set.
-/
namespace McpBridge.Sessions
open Outcomes Auth Outcome

/-- `session.Session`; the metadata, which nothing reads, is left out. -/
structure Session where
  id : String
  user : String
  createdAt : Int
  updatedAt : Int
  expiresAt : Int
  scopes : List String
  rateLimit : RateLimitConfig
  deriving DecidableEq, Repr

def newSession (id : String) (claims : Claims) (now : Int) : Outcome Session := do
  let expiresAt ← deref claims.expiresAt
  pure ⟨id,claims.subject,now,now,expiresAt,claims.scopes,claims.rateLimit⟩

def wrapSessionStoreError (operation cause : String) : String :=
  "[session] store_" ++ operation ++ ": INTERNAL: session store " ++ operation ++ " failed: " ++ cause

/-- `RedisManager`, with what `json.Marshal` and the Redis client answer. -/
structure RedisManager where
  ttl : Int
  marshal : Session → Except String Unit
  set : String → Session → Int → Except String Unit

def RedisManager.createSession (m : RedisManager) (id : String) (claims : Claims) (now : Int) : Outcome Session := do
  let session ← newSession id claims now
  ofExcept ((m.marshal session).mapError (wrapSessionStoreError "marshal"))
  let ttl := min (session.expiresAt - now) m.ttl
  ofExcept ((m.set ("session:" ++ session.id) session ttl).mapError (wrapSessionStoreError "set"))
  pure session

abbrev MemoryManager := String → Option Session

namespace MemoryManager

def createSession (m : MemoryManager) (id : String) (claims : Claims) (now : Int) :
    Outcome (Session × MemoryManager) := do
  let session ← newSession id claims now
  pure (session,Function.update m session.id (some session))

end MemoryManager

/-- The manager of either kind. -/
inductive Manager where
  | redis (m : RedisManager)
  | memory (m : MemoryManager)

def Manager.createSession (manager : Manager) (id : String) (claims : Claims) (now : Int) : Outcome Session :=
  match manager with
  | .redis m => m.createSession id claims now
  | .memory m => Prod.fst <$> m.createSession id claims now

def createConnectionSession (manager : Manager) (id : String) (now : Int) : Outcome Session :=
  manager.createSession id {} now

theorem createSession_returns_iff (manager : Manager) (id : String) (claims : Claims) (now : Int) :
    (manager.createSession id claims now).Returns ↔ claims.expiresAt.isSome := by
  have made : (newSession id claims now).Returns ↔ claims.expiresAt.isSome := by simp [newSession,returns_bind]
  rw [← made]
  cases manager with
  | redis m =>
    simp [Manager.createSession,RedisManager.createSession,returns_bind,returns_ofExcept,returns_pure,implies_true]
  | memory m =>
    simp [Manager.createSession,MemoryManager.createSession]
    cases newSession id claims now <;> exact Iff.rfl

theorem jwt_validateToken_returns_iff (p : JWTProvider) (token : String) (now : Int) :
    (p.validateToken token now).Returns ↔ ∀ claims, p.parseToken token now = .ok claims →
      p.validateClaims claims now = .ok () → claims.expiresAt.isSome := by
  have kept : ∀ claims, (JWTProvider.setDefaultRateLimit claims).expiresAt = claims.expiresAt := by
    intro claims
    unfold JWTProvider.setDefaultRateLimit
    split <;> rfl
  simp [JWTProvider.validateToken,JWTProvider.logTokenValidation,returns_bind,returns_ofExcept,returns_deref,returns_pure,ofExcept_eq_value,kept,implies_true]
  exact ⟨fun all claims parsed valid => all claims parsed () valid,fun all claims parsed _ valid => all claims parsed valid⟩

theorem introspect_returns (p : OAuth2Provider) (cache : IntrospectionCache) (token : String) (now : Int) :
    (p.introspect cache token now).1.Returns := by
  unfold OAuth2Provider.introspect
  split
  · trivial
  · split <;> trivial

/-- The calls that take claims from a token or from a frontend. -/
inductive Use where
  | validate (provider : Provider) (cache : IntrospectionCache) (token : String) (now : Int)
  | create (manager : Manager) (id : String) (claims : Claims) (now : Int)
  | connect (manager : Manager) (id : String) (now : Int)

/-- The call returns a value or an error. -/
def Use.Returns : Use → Prop
  | .validate provider cache token now => (provider.validateToken cache token now).1.Returns
  | .create manager id claims now => (manager.createSession id claims now).Returns
  | .connect manager id now => (createConnectionSession manager id now).Returns

/-- The claims of the call have an expiry wherever it is read. -/
def Use.ExpiryKnown : Use → Prop
  | .validate (.jwt p) _ token now => ∀ claims, p.parseToken token now = .ok claims →
      p.validateClaims claims now = .ok () → claims.expiresAt.isSome
  | .validate _ _ _ _ => True
  | .create _ _ claims _ => claims.expiresAt.isSome
  | .connect _ _ _ => False

/-- Validating a token and creating a session return exactly when the claims have an expiry: without one the JWT
    provider, both managers and every TCP connection panic. -/
theorem claims_handled_iff_expiry_known (use : Use) : use.Returns ↔ use.ExpiryKnown := by
  cases use with
  | validate provider cache token now =>
    cases provider with
    | noOp => exact iff_of_true trivial trivial
    | jwt p => exact jwt_validateToken_returns_iff p token now
    | oauth2 p =>
      refine iff_of_true ?_ trivial
      simp only [Use.Returns,Provider.validateToken,OAuth2Provider.validateToken,OAuth2Provider.validateJWT]
      split
      · trivial
      · split <;> exact introspect_returns p cache token now
  | create manager id claims now => exact createSession_returns_iff manager id claims now
  | connect manager id now =>
    rw [Use.Returns,createConnectionSession,createSession_returns_iff]
    simp [Use.ExpiryKnown]

def lastingToken : JWTProvider where
  parseWithClaims _ _ := .ok ({ subject := "alice", scopes := ["mcp:*"] },true)

theorem missing_expiry_panics : lastingToken.validateToken "token" 0 = .panic ∧
      (Manager.memory fun _ => none).createSession "id" { subject := "alice" } 0 = .panic ∧
      createConnectionSession (.memory fun _ => none) "id" 0 = .panic :=
  ⟨rfl,rfl,rfl⟩

end McpBridge.Sessions
