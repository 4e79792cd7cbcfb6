import McpBridge.Runs

/-!
The status that the gateway's health checker reports. A run of the checks counts from when it stores its results.
-/
namespace McpBridge.HealthStatus
open Runs

/-- `discovery` says whether one is configured. Subsystems and checks are given by their health. -/
structure Checker where
  discovery : Bool
  tcpEnabled : Bool := false
  tcpPort : Int := 0
  healthy : Bool := true
  subsystems : List (String × Bool) := []
  checks : List (String × Bool) := []

namespace Checker

/-- The entry of the subsystem is replaced or added. -/
def setSubsystem (name : String) (healthy : Bool) (c : Checker) : Checker :=
  { c with subsystems := (name,healthy) :: c.subsystems.filter (·.1 ≠ name) }

def updateOverallHealth (c : Checker) : Checker := { c with healthy := c.subsystems.all (·.2) }

def updateSubsystem (name : String) (healthy : Bool) (c : Checker) : Checker :=
  (c.setSubsystem name healthy).updateOverallHealth

def checkSubsystems (c : Checker) : Checker :=
  (((c.setSubsystem "service_discovery" c.discovery).setSubsystem "connection_pool" true).setSubsystem
    "authentication" true).setSubsystem "rate_limiting" true

/-- The checks see how many namespaces there are, and the health of all endpoints. -/
def runChecks (namespaces : Nat) (endpoints : List Bool) (c : Checker) : List (String × Bool) :=
  [("service_discovery",decide (0 < namespaces)),("endpoints",endpoints.any id)] ++
    if c.tcpEnabled then [("tcp_service",decide (0 < c.tcpPort))] else []

def performChecks (namespaces : Nat) (endpoints : List Bool) (c : Checker) : Checker :=
  let checks := c.runChecks namespaces endpoints
  { c with healthy := checks.all (·.2), checks := checks }

end Checker

inductive Label where
  | updateSubsystem (name : String) (healthy : Bool)
  | getDetailedStatus
  | performChecks (namespaces : Nat) (endpoints : List Bool)
  | enableTCP (port : Int)

/-- Without a service discovery the checks panic. -/
def step (c : Checker) : Label → Option Checker
  | .updateSubsystem name healthy => some (c.updateSubsystem name healthy)
  | .getDetailedStatus => some c.checkSubsystems
  | .performChecks namespaces endpoints => if c.discovery then some (c.performChecks namespaces endpoints) else none
  | .enableTCP port => some { c with tcpEnabled := true, tcpPort := port }

/-- A healthy status means that nothing has failed. -/
def Sound (c : Checker) : Prop :=
  c.healthy = true → (∀ subsystem ∈ c.subsystems, subsystem.2 = true) ∧ ∀ check ∈ c.checks, check.2 = true

/-- Whatever computes the status finds no failure that it does not look at. -/
def Agrees (c : Checker) : Label → Prop
  | .updateSubsystem name healthy => healthy = true →
      (∀ subsystem ∈ c.subsystems, subsystem.1 ≠ name → subsystem.2 = true) → ∀ check ∈ c.checks, check.2 = true
  | .getDetailedStatus => c.healthy = true → c.discovery = true
  | .performChecks namespaces endpoints => 0 < namespaces → true ∈ endpoints → (c.tcpEnabled = true → 0 < c.tcpPort) →
      ∀ subsystem ∈ c.subsystems, subsystem.2 = true
  | .enableTCP _ => True

variable {c next : Checker} {label : Label} {namespaces : Nat} {endpoints : List Bool} {name : String} {healthy : Bool}

theorem all_setSubsystem :
    (∀ subsystem ∈ (c.setSubsystem name healthy).subsystems, subsystem.2 = true) ↔
      healthy = true ∧ ∀ subsystem ∈ c.subsystems, subsystem.1 ≠ name → subsystem.2 = true := by
  simp [Checker.setSubsystem]

theorem sound_updateSubsystem :
    Sound (c.updateSubsystem name healthy) ↔ Agrees c (.updateSubsystem name healthy) := by
  have all := @all_setSubsystem c name healthy
  simp only [Sound,Checker.updateSubsystem,Checker.updateOverallHealth,List.all_eq_true,all,Agrees]
  exact ⟨fun sound up others => (sound ⟨up,others⟩).2,fun agrees both => ⟨both,agrees both.1 both.2⟩⟩

theorem all_runChecks :
    (∀ check ∈ c.runChecks namespaces endpoints, check.2 = true) ↔
      0 < namespaces ∧ true ∈ endpoints ∧ (c.tcpEnabled = true → 0 < c.tcpPort) := by
  cases enabled : c.tcpEnabled <;> simp [Checker.runChecks,enabled]

theorem sound_performChecks :
    Sound (c.performChecks namespaces endpoints) ↔ Agrees c (.performChecks namespaces endpoints) := by
  simp only [Sound,Checker.performChecks,List.all_eq_true,all_runChecks,Agrees]
  exact ⟨fun sound some one tcp => (sound ⟨some,one,tcp⟩).1,
    fun agrees passed => ⟨agrees passed.1 passed.2.1 passed.2.2,passed⟩⟩

/-- The subsystems that the checker looks at itself are healthy, but for a missing service discovery. -/
theorem sound_checkSubsystems (sound : Sound c) : Sound c.checkSubsystems ↔ Agrees c .getDetailedStatus := by
  constructor
  · intro after up
    exact (after up).1 ("service_discovery",c.discovery) (by simp [Checker.checkSubsystems,Checker.setSubsystem])
  · intro configured up
    obtain ⟨subsystems,checks⟩ := sound up
    have kept {d : Checker} {name : String} {healthy : Bool} (all : ∀ subsystem ∈ d.subsystems, subsystem.2 = true)
        (up : healthy = true) : ∀ subsystem ∈ (d.setSubsystem name healthy).subsystems, subsystem.2 = true :=
      all_setSubsystem.mpr ⟨up,fun subsystem listed _ => all subsystem listed⟩
    exact ⟨kept (kept (kept (kept subsystems (configured up)) rfl) rfl) rfl,checks⟩

/-- A healthy status always means that all subsystems are healthy and all checks passed, exactly when whatever computed
    it found no failure that it does not look at. -/
theorem status_sound_iff (discovery : Bool) (labels : List Label) (c : Checker)
    (executed : run step { discovery := discovery } labels = some c) :
    Always step Sound { discovery := discovery } labels ↔ Meets step Agrees { discovery := discovery } labels := by
  refine always_iff_meets (fun _ _ _ (_ : True) _ => trivial) ?_ trivial (fun _ => ⟨nofun,nofun⟩) executed
  intro c label next _ sound taken
  cases label with
  | updateSubsystem => cases taken; exact sound_updateSubsystem
  | getDetailedStatus => cases taken; exact sound_checkSubsystems sound
  | performChecks =>
    obtain ⟨-,rfl⟩ := by simpa [step] using taken
    exact sound_performChecks
  | enableTCP => cases taken; exact iff_of_true sound trivial

/-- A subsystem fails and recovers before the checks pass. -/
def recovering : List Label :=
  [.updateSubsystem "redis" false,.updateSubsystem "redis" true,.enableTCP 9090,.performChecks 2 [true,false],
    .getDetailedStatus]

theorem status_sound_up : ∃ c, run step { discovery := true } recovering = some c ∧ c.healthy = true ∧
    Always step Sound { discovery := true } recovering := by
  refine ⟨_,rfl,rfl,(status_sound_iff true recovering _ rfl).mpr ?_⟩
  refine (meets_cons rfl).mpr ⟨nofun,(meets_cons rfl).mpr ⟨fun _ _ => nofun,(meets_cons rfl).mpr ⟨trivial,?_⟩⟩⟩
  refine (meets_cons rfl).mpr ⟨fun _ _ _ => ?_,(meets_cons rfl).mpr ⟨fun _ => rfl,trivial⟩⟩
  simp [Checker.updateSubsystem,Checker.updateOverallHealth,Checker.setSubsystem]

/-- A run of the checks that passes hides a subsystem that is down. -/
theorem subsystem_hidden : ∃ c, run step { discovery := true }
    [.updateSubsystem "redis" false,.performChecks 1 [true]] = some c ∧
    c.healthy = true ∧ c.subsystems = [("redis",false)] :=
  ⟨_,rfl,rfl,rfl⟩

end McpBridge.HealthStatus
