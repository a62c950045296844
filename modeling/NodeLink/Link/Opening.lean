import NodeLink.Link.Calls

/-!
# Opening a link

A link is opened from its identity and three collaborators: an environment, a
connector and an event sink. All three are required. Settings that ask for TLS
also require a negotiator; without one the link is refused rather than opened
without TLS. An opened link is disconnected and has done nothing.

An environment in turn needs a running scheduler for its jobs.
-/

set_option autoImplicit false

namespace NodeLink

/-- Why a link cannot be opened. -/
inductive OpeningError
  | environmentMissing
  | connectorMissing
  | sinkMissing
  /-- TLS is asked for and there is no negotiator. -/
  | negotiatorMissing
deriving DecidableEq

/-- The sentence shown to people. -/
def OpeningError.message : OpeningError → String
  | environmentMissing => "endpoint environment is required"
  | connectorMissing => "transport connector is required"
  | sinkMissing => "event sink is required"
  | negotiatorMissing => "tls is enabled but no tls negotiator was configured"

/-- The sentence shown when an environment is made while no scheduler runs. -/
def Environment.schedulerMissing : String :=
  "endpoint environment needs a tokio runtime: there is no reactor running, must be called " ++
    "from the context of a Tokio 1.x runtime"

/-- The collaborators a link is opened with. -/
structure Collaborators where
  environment : Option Environment
  connector : Bool
  /-- Whether there is an event sink. -/
  sink : Bool

/-- The environment of complete collaborators. -/
def Collaborators.check (c : Collaborators) : Except OpeningError Environment :=
  match c.environment with
  | none => .error .environmentMissing
  | some e =>
    if !c.connector then .error .connectorMissing
    else if !c.sink then .error .sinkMissing
    else if e.settings.tls && !e.negotiator then .error .negotiatorMissing
    else .ok e

/-- Opens a link. The line about it is logged before there is a link that could be called. -/
def Link.open? {σ : Type} (o : Surroundings σ) (identity : Identity) (c : Collaborators)
    (outside : σ) : Except OpeningError (Link σ) :=
  c.check.map fun e =>
    let l := Link.new identity e outside
    Link.log o (fun _ l => l) .debug "endpoint_created"
      (l.place ++ [("grace_period_ms", toString e.settings.gracePeriod.toNat)]) l

/-- An opened link that asks for TLS has a negotiator. -/
theorem Collaborators.negotiator_of_check {c : Collaborators} {e : Environment}
    (h : c.check = .ok e) : e.settings.tls = true → e.negotiator = true := by
  unfold check at h
  intro tls
  split at h
  · simp at h
  · repeat' split at h
    all_goals simp_all

end NodeLink
