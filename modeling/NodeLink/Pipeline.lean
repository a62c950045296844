import NodeLink.Address.Basic
import NodeLink.Text.Duration

/-!
# Pipelines and connect options

A pipeline is the ordered list of stages that a connector installs on a new
channel. Every attempt gets a fresh one: the wire log first, where tracing asks
for it, then the stages of the owner. The other options of an attempt are read
off the settings. TLS is an option of its own and runs before any stage.
-/

set_option autoImplicit false

namespace NodeLink

open Text (Layout)

/-- A stage of a pipeline. -/
inductive Stage
  /-- Logs what passes on the wire. -/
  | wireLog
  /-- A stage of the owner, known by its name. -/
  | named (name : String)
deriving DecidableEq

namespace Stage

/-- The name under which a stage is installed. -/
def name : Stage → String
  | wireLog => "logging"
  | named n => n

/-- The stage with a given name. -/
def ofName (n : String) : Stage := if n = wireLog.name then wireLog else named n

/-- A stage as a printed record. -/
def layout : Stage → Layout
  | wireLog => .word "LoggingStage"
  | named n => .items "Named" [.string n]

/-- Every name belongs to the stage made from it. -/
theorem name_ofName (n : String) : (ofName n).name = n := by
  unfold ofName; split <;> simp_all [name]

end Stage

/-- Stages in the order in which they are installed. -/
structure Pipeline where
  stages : List Stage
deriving DecidableEq

namespace Pipeline

def empty : Pipeline := ⟨[]⟩

def addLast (p : Pipeline) (s : Stage) : Pipeline := ⟨p.stages ++ [s]⟩

def extend (p : Pipeline) (stages : List Stage) : Pipeline := stages.foldl addLast p

/-- The names of the stages. -/
def names (p : Pipeline) : List String := p.stages.map Stage.name

/-- A pipeline as a printed record. -/
def layout (p : Pipeline) : Layout :=
  .fields "Pipeline" [("stages", .list (p.stages.map Stage.layout))]

/-- Extending appends exactly the given stages. -/
@[simp] theorem stages_extend (p : Pipeline) (stages : List Stage) :
    (p.extend stages).stages = p.stages ++ stages := by
  induction stages generalizing p with
  | nil => simp [extend]
  | cons s rest ih =>
    have step : p.extend (s :: rest) = (p.addLast s).extend rest := rfl
    rw [step, ih]; simp [addLast]

end Pipeline

/-- What a connector is told about one attempt. -/
structure ConnectOptions where
  address : Address
  /-- Milliseconds the connector has for the socket. -/
  timeout : Nat
  /-- Whether small writes are sent at once. -/
  noDelay : Bool
  pooling : Bool
  /-- Whether a TLS negotiator is handed over. -/
  tls : Bool
  pipeline : Pipeline
deriving DecidableEq

/-- Options as a printed record. -/
def ConnectOptions.layout (o : ConnectOptions) : Layout :=
  .fields "ConnectOptions" [
    ("address", o.address.layout),
    ("connect_timeout", .word (Text.duration o.timeout)),
    ("tcp_nodelay", .bool o.noDelay),
    ("buffer_pooling", .bool o.pooling),
    ("tls", .bool o.tls),
    ("pipeline", o.pipeline.layout)]

end NodeLink
