import Mathlib.Data.List.Infix
import McpBridge.ExchangeSorts

/-!
The rules by which the router picks the endpoints for a method (`gateway/namespace_router.go`). Rules are compiled when
they come in and kept in the order of their priorities, so that the first match is one of the most urgent. The engine of
the regular expressions is not modelled.
-/
namespace McpBridge.NamespaceRules
open ExchangeSorts List

/-- The regular expressions of the library. -/
structure Engine (Regex : Type) where
  compile : String → Except String Regex
  matchString : Regex → String → Bool
  findStringSubmatch : Regex → String → List String

structure NamespaceRoutingRule (Regex : Type) where
  pattern : String
  tags : List String
  priority : Int
  regex : Option Regex := none

/-- The configured rules. -/
structure NamespaceRoutingConfig (Regex : Type) where
  enabled : Bool
  rules : List (NamespaceRoutingRule Regex)

structure NamespaceRouter (Regex : Type) where
  enabled : Bool
  rules : List (NamespaceRoutingRule Regex)

section
variable {Regex : Type}

def standardRoutingPriority : Int := 2

def highRoutingPriority : Int := 3

def getSystemRoutingRules : List (NamespaceRoutingRule Regex) :=
  [{ pattern := "^initialize$",tags := ["system","default"],priority := 1 }]

def getMCPCapabilityRules : List (NamespaceRoutingRule Regex) :=
  [{ pattern := "^tools/.*",tags := ["tools","default"],priority := standardRoutingPriority },
   { pattern := "^prompts/.*",tags := ["prompts","default"],priority := standardRoutingPriority },
   { pattern := "^resources/.*",tags := ["resources","default"],priority := standardRoutingPriority }]

def getDottedNamespaceRules : List (NamespaceRoutingRule Regex) :=
  [{ pattern := "^docker\\..*",tags := ["docker","default"],priority := highRoutingPriority },
   { pattern := "^k8s\\..*",tags := ["k8s","default"],priority := highRoutingPriority },
   { pattern := "^fs\\..*",tags := ["fs","default"],priority := highRoutingPriority },
   { pattern := "^web\\..*",tags := ["web","default"],priority := highRoutingPriority },
   { pattern := "^db\\..*",tags := ["db","default"],priority := highRoutingPriority }]

def getSlashNamespaceRules : List (NamespaceRoutingRule Regex) :=
  [{ pattern := "^fs/.*",tags := ["fs","default"],priority := highRoutingPriority },
   { pattern := "^web/.*",tags := ["web","default"],priority := highRoutingPriority },
   { pattern := "^db/.*",tags := ["db","default"],priority := highRoutingPriority }]

def defaultNamespaceRoutingRules : List (NamespaceRoutingRule Regex) :=
  getSystemRoutingRules ++ getMCPCapabilityRules ++ getDottedNamespaceRules ++ getSlashNamespaceRules

variable (engine : Engine Regex) {rules : List (NamespaceRoutingRule Regex)} {router : NamespaceRouter Regex}

/-- A rule with its pattern compiled, if it has one. -/
def compileRule (rule : NamespaceRoutingRule Regex) : Except String (NamespaceRoutingRule Regex) :=
  if rule.pattern = "" then .ok rule
  else (engine.compile rule.pattern).map fun regex => { rule with regex := some regex }

def newNamespaceRouter (config : NamespaceRoutingConfig Regex) : NamespaceRouter Regex :=
  let rules := if config.rules = [] then defaultNamespaceRoutingRules else config.rules
  { enabled := config.enabled
    rules := exchangeSort (·.priority) (rules.filterMap fun rule => (compileRule engine rule).toOption) }

def contains (s substr : String) : Bool := s.toList.tails.any substr.toList.isPrefixOf

def matchesRule (method : String) (rule : NamespaceRoutingRule Regex) : Bool :=
  match rule.regex with
  | some regex => engine.matchString regex method
  | none => contains method rule.pattern

/-- The loop of `strings.ReplaceAll`, which has `skip` characters of a match to leave out. -/
def replaceFrom (old new : List Char) : Nat → List Char → List Char
  | _,[] => []
  | skip + 1,_ :: rest => replaceFrom old new skip rest
  | 0,c :: rest =>
    if old.isPrefixOf (c :: rest) then new ++ replaceFrom old new (old.length - 1) rest
    else c :: replaceFrom old new 0 rest

def replaceAll (s old new : String) : String := .ofList (replaceFrom old.toList new.toList 0 s.toList)

def placeholder (i : Nat) : String := "$" ++ toString (i + 1)

/-- The placeholders `$1`, `$2`, .. are replaced one after the other. -/
def expandTag (groups : List String) (tag : String) : String :=
  groups.zipIdx.foldl (fun tag (group,i) =>
    if contains tag (placeholder i) then replaceAll tag (placeholder i) group else tag) tag

def expandTags (method : String) (rule : NamespaceRoutingRule Regex) : List String :=
  match rule.regex with
  | none => rule.tags
  | some regex =>
    match engine.findStringSubmatch regex method with
    | [] | [_] => rule.tags
    | _ :: groups => rule.tags.map (expandTag groups)

def routeRequest (router : NamespaceRouter Regex) (method : String) : Except String (List String) :=
  if ¬router.enabled then .ok []
  else if method = "" then .error "empty method in request"
  else
    match router.rules.find? (matchesRule engine method) with
    | some rule => .ok (expandTags engine method rule)
    | none => .ok []

def addRule (router : NamespaceRouter Regex) (rule : NamespaceRoutingRule Regex) : Except String (NamespaceRouter Regex) :=
  match compileRule engine rule with
  | .error e => .error ("failed to compile pattern " ++ rule.pattern ++ ": " ++ e)
  | .ok rule => .ok { router with rules := insertRanked (·.priority) rule router.rules }

/-- The router without the rules of the pattern, and how many there were. -/
def removeRule (router : NamespaceRouter Regex) (pattern : String) : NamespaceRouter Regex × Nat :=
  let newRules := router.rules.filter (·.pattern ≠ pattern)
  ({ router with rules := newRules },router.rules.length - newRules.length)

/-- A rule is added or removed. -/
inductive Change (Regex : Type) where
  | add (rule : NamespaceRoutingRule Regex)
  | remove (pattern : String)

def apply (router : NamespaceRouter Regex) : Change Regex → NamespaceRouter Regex
  | .add rule => (addRule engine router rule).toOption.getD router
  | .remove pattern => (removeRule router pattern).1

/-- The router after `NewNamespaceRouter` and calls of `AddRule` and `RemoveRule`. -/
def after (config : NamespaceRoutingConfig Regex) (changes : List (Change Regex)) : NamespaceRouter Regex :=
  changes.foldl (apply engine) (newNamespaceRouter engine config)

/-- The engine accepts the pattern, if there is one. -/
def Accepts (rule : NamespaceRoutingRule Regex) : Prop := rule.pattern = "" ∨ (engine.compile rule.pattern).isOk = true

instance (rule : NamespaceRoutingRule Regex) : Decidable (Accepts engine rule) := inferInstanceAs (Decidable (_ ∨ _))

/-- What the pattern compiles to. -/
def regexOf (rule : NamespaceRoutingRule Regex) : Option Regex :=
  if rule.pattern = "" then rule.regex else (engine.compile rule.pattern).toOption

def compiled (rule : NamespaceRoutingRule Regex) : NamespaceRoutingRule Regex := { rule with regex := regexOf engine rule }

/-- What a change makes of the rules that are there, as they were written. -/
def survive (rules : List (NamespaceRoutingRule Regex)) : Change Regex → List (NamespaceRoutingRule Regex)
  | .add rule => if Accepts engine rule then rule :: rules else rules
  | .remove pattern => rules.filter (·.pattern ≠ pattern)

/-- The configured or built-in rules and those added, as far as the engine accepts them and they are not removed
    later. -/
def survivors (config : NamespaceRoutingConfig Regex) (changes : List (Change Regex)) : List (NamespaceRoutingRule Regex) :=
  changes.foldl (survive engine)
    ((if config.rules = [] then defaultNamespaceRoutingRules else config.rules).filter (Accepts engine ·))

/-- A rule without an expression matches the methods in which its pattern occurs. -/
def Matches (method : String) (rule : NamespaceRoutingRule Regex) : Prop :=
  match regexOf engine rule with
  | some regex => engine.matchString regex method = true
  | none => rule.pattern.toList <:+: method.toList

/-- Each `$i` of a tag in turn becomes the `i`-th group of the match. -/
def expansion (method : String) (rule : NamespaceRoutingRule Regex) : List String :=
  match regexOf engine rule with
  | some regex => rule.tags.map fun tag => (engine.findStringSubmatch regex method).tail.zipIdx.foldl
      (fun tag (group,i) => replaceAll tag (placeholder i) group) tag
  | none => rule.tags

/-- The tags are those of a most urgent matching rule, or there are none and no rule matches. -/
def Routed (rules : List (NamespaceRoutingRule Regex)) (method : String) (tags : List String) : Prop :=
  (∃ rule ∈ rules, Matches engine method rule ∧
    (∀ other ∈ rules, Matches engine method other → rule.priority ≤ other.priority) ∧
    tags = expansion engine method rule) ∨ (∀ rule ∈ rules, ¬ Matches engine method rule) ∧ tags = []

theorem replaceFrom_absent {old new s : List Char} (absent : s.tails.any old.isPrefixOf = false) :
    replaceFrom old new 0 s = s := by
  induction s with
  | nil => rfl
  | cons c rest ih =>
    simp only [tails,any_cons,Bool.or_eq_false_iff] at absent
    simp only [replaceFrom,absent.1,ih absent.2]
    rfl

theorem expandTag_eq (groups : List String) (tag : String) : expandTag groups tag =
    groups.zipIdx.foldl (fun tag (group,i) => replaceAll tag (placeholder i) group) tag := by
  unfold expandTag
  congr 1
  funext tag ⟨group,i⟩
  by_cases there : contains tag (placeholder i) = true
  · simp [there]
  · have absent : replaceAll tag (placeholder i) group = tag := by
      rw [replaceAll,replaceFrom_absent (by simpa [contains] using there),String.ofList_toList]
    simp [there,absent]

section
variable (rule : NamespaceRoutingRule Regex) (method : String)

theorem compileRule_eq : (compileRule engine rule).toOption =
    if Accepts engine rule then some (compiled engine rule) else none := by
  by_cases plain : rule.pattern = ""
  · rw [if_pos (.inl plain),compileRule,if_pos plain,compiled,regexOf,if_pos plain]
    rfl
  · cases result : engine.compile rule.pattern <;>
      simp [compileRule,Accepts,compiled,regexOf,plain,result,Except.toOption,Except.map,Except.isOk,Except.toBool]

theorem matchesRule_iff : matchesRule engine method (compiled engine rule) = true ↔ Matches engine method rule := by
  unfold matchesRule Matches compiled
  cases regexOf engine rule with
  | some regex => rfl
  | none => simp [contains,infix_iff_prefix_suffix,mem_tails,and_comm]

theorem expandTags_eq : expandTags engine method (compiled engine rule) = expansion engine method rule := by
  unfold expandTags expansion compiled
  cases regexOf engine rule with
  | none => rfl
  | some regex =>
    dsimp only
    rcases engine.findStringSubmatch regex method with _ | ⟨whole,_ | ⟨group,groups⟩⟩
    · simp
    · simp
    · simp only [tail_cons,← expandTag_eq]

theorem addRule_fails {text : String} : addRule engine router rule = .error text ↔ rule.pattern ≠ "" ∧
    ∃ err, engine.compile rule.pattern = .error err ∧ text = "failed to compile pattern " ++ rule.pattern ++ ": " ++ err := by
  by_cases plain : rule.pattern = ""
  · simp [addRule,compileRule,plain]
  · cases compiled : engine.compile rule.pattern <;> simp [addRule,compileRule,plain,compiled,Except.map,eq_comm]

end

theorem apply_keeps (change : Change Regex) (same : router.rules.Perm (rules.map (compiled engine)))
    (ranked : Ranked (·.priority) router.rules) :
    (apply engine router change).rules.Perm ((survive engine rules change).map (compiled engine)) ∧
      Ranked (·.priority) (apply engine router change).rules ∧ (apply engine router change).enabled = router.enabled := by
  cases change with
  | add rule =>
    have added : (addRule engine router rule).toOption = (compileRule engine rule).toOption.map fun rule =>
        { router with rules := insertRanked (·.priority) rule router.rules } := by
      unfold addRule
      cases compileRule engine rule <;> rfl
    rw [apply,survive,added,compileRule_eq]
    split
    · exact ⟨(insertRanked_perm _ _).trans (same.cons _),insertRanked_ranked ranked,rfl⟩
    · exact ⟨same,ranked,rfl⟩
  | remove pattern =>
    refine ⟨?_,ranked.filter _,rfl⟩
    have kept := same.filter (·.pattern ≠ pattern)
    rwa [filter_map] at kept

variable {engine}

theorem routeRequest_routed (same : router.rules.Perm (rules.map (compiled engine)))
    (ranked : Ranked (·.priority) router.rules) (enabled : router.enabled = true)
    {method : String} (named : method ≠ "") :
    ∃ tags, routeRequest engine router method = .ok tags ∧ Routed engine rules method tags := by
  have listed {rule : NamespaceRoutingRule Regex} (member : rule ∈ rules) : compiled engine rule ∈ router.rules :=
    same.mem_iff.mpr (mem_map_of_mem member)
  rw [routeRequest,if_neg (by simp [enabled]),if_neg named]
  cases found : router.rules.find? (matchesRule engine method) with
  | none =>
    refine ⟨[],rfl,.inr ⟨fun rule member hit => ?_,rfl⟩⟩
    exact find?_eq_none.mp found _ (listed member) ((matchesRule_iff engine rule method).mpr hit)
  | some first =>
    obtain ⟨rule,member,rfl⟩ := mem_map.mp (same.mem_iff.mp (mem_of_find?_eq_some found))
    refine ⟨_,rfl,.inl ⟨rule,member,(matchesRule_iff engine rule method).mp (find?_some found),?_,
      expandTags_eq engine rule method⟩⟩
    intro other there hit
    exact ranked.find_least found (compiled engine other) (listed there) ((matchesRule_iff engine other method).mpr hit)

end

/-- After any changes the rules are the surviving ones by priority, `AddRule` fails for the patterns that the engine
    refuses, and a request is routed by one of the most urgent rules that match. -/
theorem rules_routed {Regex : Type} (engine : Engine Regex) (config : NamespaceRoutingConfig Regex)
    (changes : List (Change Regex)) :
    (after engine config changes).rules.Perm ((survivors engine config changes).map (compiled engine)) ∧
      (after engine config changes).rules.Pairwise (·.priority ≤ ·.priority) ∧
      (∀ rule text, addRule engine (after engine config changes) rule = .error text ↔ rule.pattern ≠ "" ∧
        ∃ err, engine.compile rule.pattern = .error err ∧
          text = "failed to compile pattern " ++ rule.pattern ++ ": " ++ err) ∧
      ∀ method, method ≠ "" → config.enabled = true →
        ∃ tags, routeRequest engine (after engine config changes) method = .ok tags ∧
          Routed engine (survivors engine config changes) method tags := by
  have kept : ∀ (router : NamespaceRouter Regex) rules, router.rules.Perm (rules.map (compiled engine)) →
      Ranked (·.priority) router.rules →
      (changes.foldl (apply engine) router).rules.Perm ((changes.foldl (survive engine) rules).map (compiled engine)) ∧
      Ranked (·.priority) (changes.foldl (apply engine) router).rules ∧
      (changes.foldl (apply engine) router).enabled = router.enabled := by
    induction changes with
    | nil => exact fun _ _ same ranked => ⟨same,ranked,rfl⟩
    | cons change changes ih =>
      intro router rules same ranked
      obtain ⟨same',ranked',enabled⟩ := apply_keeps engine change same ranked
      obtain ⟨same'',ranked'',enabled'⟩ := ih _ _ same' ranked'
      exact ⟨same'',ranked'',enabled'.trans enabled⟩
  have compiles (rules : List (NamespaceRoutingRule Regex)) : (rules.filterMap fun rule =>
      (compileRule engine rule).toOption) = (rules.filter (Accepts engine ·)).map (compiled engine) := by
    induction rules with
    | nil => rfl
    | cons rule rules ih =>
      rw [filterMap_cons,compileRule_eq,ih]
      by_cases accepted : Accepts engine rule <;> simp [accepted]
  obtain ⟨same,ranked,enabled⟩ := kept (newNamespaceRouter engine config) _
    ((exchangeSort_perm _).trans (.of_eq (compiles _))) (exchangeSort_ranked _)
  refine ⟨same,ranked,fun rule text => addRule_fails engine rule,fun method named on => ?_⟩
  exact routeRequest_routed same ranked (enabled.trans on) named

/-- Patterns are methods, each with its first letter as a group. -/
def literal : Engine String where
  compile pattern := if pattern = "(" then .error "missing closing )" else .ok pattern
  matchString regex method := regex == method
  findStringSubmatch regex method := if regex = method then [method,String.ofList (method.toList.take 1)] else []

/-- The engine refuses the first change. -/
def added : List (Change String) :=
  [.add { pattern := "(", tags := ["none"], priority := 0 },.add { pattern := "", tags := ["any"], priority := 5 },
    .add { pattern := "db", tags := ["fast-$1"], priority := 1 }]

def oneRule : NamespaceRoutingConfig String :=
  { enabled := true, rules := [{ pattern := "db", tags := ["db"], priority := 3 }] }

theorem rules_routed_added : (survivors literal oneRule added).map (·.tags) = [["fast-$1"],["any"],["db"]] ∧
    Routed literal (survivors literal oneRule added) "db" ["fast-d"] := by
  obtain ⟨tags,routed,fits⟩ := (rules_routed literal oneRule added).2.2.2 "db" (by decide) rfl
  have answer : routeRequest literal (after literal oneRule added) "db" = .ok ["fast-d"] := by decide
  rw [answer] at routed
  cases routed
  exact ⟨by decide,fits⟩

end McpBridge.NamespaceRules
