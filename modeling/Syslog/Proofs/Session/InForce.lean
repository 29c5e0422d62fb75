import Syslog.Proofs.Logging.Provenance
import Syslog.Proofs.Logging.Rejection

namespace Syslog

/-!
# The value in force

The settings of a process have one value, and four requests can change it: it is configured, it is
reset, and it is configured on the way by the two calls that set logging up.  Such a call configures
as soon as its names have passed, so that one which fails for its level or its file has changed the
settings all the same, and one which is rejected has not.

Hence the value can be told from the requests alone, without running them: it is the last one that
has been configured since the last reset, and the cap holds if there is none
(`Session.settings_after`).
-/

namespace SetUpCall

/-- The value that a call asks for; an application leaves it to the variables of its process. -/
def allowLongNames : SetUpCall → Option Bool
  | .configure options => options.allowLongNames
  | .setUp environment _ => some (Settings.ofEnvironment environment).allowLongNames

/-- The value that a call configures, unless it is rejected. -/
def configures? (identity : Identity) (call : SetUpCall) : Option Bool :=
  if call.IsImproper identity then none else call.allowLongNames

variable {identity : Identity} {process : Process} {call : SetUpCall}

theorem isImproper_iff : call.IsImproper identity ↔
    call.NamesNoFacility ∨ ∃ cause, Renderer.Refuses identity call.appName cause :=
  or_congr_right Renderer.exists_refuses_iff.symm

theorem settings_of_configures {options : LoggingOptions} {outcome : Except Fault Unit}
    {next : Process} (known : ¬call.NamesNoFacility) (same : call.appName = options.appName)
    (asks : call.allowLongNames = options.allowLongNames)
    (configures : process.Configures identity options outcome next) :
    next.settings = process.settings.configure (call.configures? identity) := by
  have proper : ∀ renderer : Renderer,
      renderer.IsNamed identity options.appName options.facility →
        ¬call.IsImproper identity := by
    rintro renderer named improper
    rcases (isImproper_iff.mp improper).resolve_left known with ⟨cause, refuses⟩
    exact named.not_refuses (same ▸ refuses)
  rw [configures?]
  cases configures with
  | refused refuses => rw [if_pos (isImproper_iff.mpr (Or.inr ⟨_, same ▸ refuses⟩))]; rfl
  | levelless named _ => rw [if_neg (proper _ named), asks]
  | completed named _ => rw [if_neg (proper _ named), asks]; rfl

/-- However a call ends, the settings are as they were if it is rejected, and configured if not. -/
theorem settings_perform (identity : Identity) (process : Process) (call : SetUpCall) :
    (call.perform identity process).2.settings =
      process.settings.configure (call.configures? identity) := by
  cases call with
  | configure options =>
      exact settings_of_configures not_false rfl rfl (process.configures identity options)
  | setUp environment options =>
      have setsUp := process.setsUp identity environment options
      -- what comes after the configuration leaves the settings alone
      have settled : ∀ facility outcome (middle : Process), environment.facility? = some facility →
          process.Configures identity (options.loggingOptions environment facility) outcome middle →
            middle.settings = process.settings.configure
              ((SetUpCall.setUp environment options).configures? identity) :=
        fun facility outcome middle known configures =>
          settings_of_configures (by simp [NamesNoFacility, known]) rfl rfl configures
      rw [perform]
      generalize process.setUp identity environment options = result at setsUp
      rcases result with ⟨outcome, next⟩
      cases setsUp with
      | unknown unknown =>
          have improper : (SetUpCall.setUp environment options).IsImproper identity :=
            Or.inl unknown
          rw [configures?, if_pos improper]
          rfl
      | failed known configures | completed known configures _ | fileless known configures _ _
      | filed known configures _ _ _ =>
          have settled := settled _ _ _ known configures
          exact settled

end SetUpCall

namespace Request

/-- The requests that can change the settings. -/
def isSetting : Request → Bool
  | .configure _ | .reset | .configureLogging _ _ | .setUpLogging _ _ => true
  | _ => false

def isReset : Request → Bool
  | .reset => true
  | _ => false

/-- The value that a request configures, if it does. -/
def configures? (identity : Identity) : Request → Option Bool
  | .configure allowLongNames => allowLongNames
  | .configureLogging options _ => SetUpCall.configures? identity (.configure options)
  | .setUpLogging given options => SetUpCall.configures? identity (.setUp given options)
  | _ => none

/-- The value behind some requests: of those since the last reset the last that configures one says
which, and without any the cap holds. -/
def inForce (identity : Identity) (requests : List Request) : Bool :=
  ((requests.reverse.takeWhile (!·.isReset)).findSome? (configures? identity)).getD false

theorem inForce_append_singleton (identity : Identity) (requests : List Request)
    (request : Request) :
    inForce identity (requests ++ [request]) =
      if request.isReset then false
      else (request.configures? identity).getD (inForce identity requests) := by
  rw [inForce, inForce, List.reverse_append, List.reverse_singleton, List.singleton_append,
    List.takeWhile_cons]
  cases request.isReset with
  | true => rfl
  | false =>
      rw [Bool.not_false, if_pos rfl, List.findSome?_cons]
      cases request.configures? identity <;> rfl

end Request

theorem Process.settings_openStructured (process : Process) (logger : Text) :
    (process.openStructured logger).settings = process.settings := by
  rw [openStructured]
  split <;> rfl

namespace Session

variable {session : Session}

/-- What one request does to the settings. -/
theorem settings_step (session : Session) (request : Request) :
    (session.step request).2.process.settings =
      if request.isReset then {}
      else session.process.settings.configure (request.configures? session.origin.identity) := by
  cases request with
  | configure allowLongNames => rfl
  | reset => rfl
  | configureLogging options toStandardOutput =>
      rw [(session.step_configureLogging options toStandardOutput).2]
      exact SetUpCall.settings_perform session.origin.identity session.process
        (.configure { options with sink := session.sinkFor toStandardOutput })
  | setUpLogging given options =>
      exact SetUpCall.settings_perform session.origin.identity session.process
        (.setUp given options)
  | marshalRecord choice type values _ =>
      rw [step_behind, marshalRecord_behind, process_message]
      rfl
  | fieldMap _ _ | register _ _ =>
      exact congrArg Process.settings (@process_perform_of_lookUp session (.request _) _ _ rfl)
  | clear choice => cases choice <;> rfl
  | buildRenderer _ _ | render _ _ _ =>
      rw [step_behind, answer]
      split <;> rfl
  | logStructured entry =>
      rw [step_behind, answer, logStructured]
      split
      · rfl
      · dsimp only
        split <;> exact session.process.settings_openStructured entry.logger
  | _ => rfl

/-- The settings behind a run of requests, by induction on the last of them. -/
theorem settings_after (fresh : session.process.settings = {}) (requests : List Request) :
    (session.after (requests.map .request)).process.settings =
      ⟨Request.inForce session.origin.identity requests⟩ := by
  induction requests using List.reverseRecOn with
  | nil => exact fresh
  | append_singleton requests request inductionHypothesis =>
      rw [List.map_append, List.map_singleton, after_append_singleton, perform, settings_step,
        inductionHypothesis, Request.inForce_append_singleton, origin_after]
      split
      · rfl
      · cases request.configures? session.origin.identity <;> rfl

end Session

end Syslog
