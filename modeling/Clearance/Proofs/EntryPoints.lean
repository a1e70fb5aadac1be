import Clearance.Proofs.Monotonicity
import Clearance.Proofs.Policies
import Clearance.Proofs.TableRows

/-! A check decides the same whether it is called, asked for on a command line, or made for a policy
of a configuration and read off the table of them, and no refusal ends as a decision. -/
namespace Clearance

namespace Config
variable {env : Environment} {path : String} {source : Source} {settings : Settings}

end Config

namespace Command

/-- The words ask for something, and the log that is set up for them is there. -/
structure Reaches (env : Environment) (words : List Text) (front : Front) (log : Log)
    (request : Request) : Prop where
  words_read : Front.read words = .ok (.request front)
  log_set : Log.ofLevel (.choose none front.debug env) front.jsonLogs = .ok log
  rest_read : Request.read front.verb front.rest = .ok (.request request)

section Run
variable {files : Path → Config.Source} {env : Environment} {words : List Text} {front : Front}
  {log : Log} {request : Request} {strict : Bool} {expression credentials : Text} {path : Path}
  {settings : Config.Settings}

lemma Reaches.run_eq (h : Reaches env words front log request) (files : Path → Config.Source) :
    run files env words = perform files env front log request := by
  simp only [run, h.words_read, h.log_set, h.rest_read]

lemma Reaches.answer_check (h : Reaches env words front log (.check expression credentials strict))
    (files : Path → Config.Source) : (run files env words).answer =
      checked (Check.byCredentials strict expression credentials).value := by
  rw [h.run_eq]
  rfl

end Run

end Command

end Clearance
