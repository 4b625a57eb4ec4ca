/-! Notices that a run leaves for its operator: how important each one is, which component gave it, and
what it says. -/
namespace RemoteJobs.Log

/-- Importance of a notice, gravest first. -/
inductive Level where
  | error
  | warn
  | info
  | debug
  | trace
  deriving DecidableEq, Repr

namespace Level

def name : Level → String
  | .error => "ERROR"
  | .warn => "WARN"
  | .info => "INFO"
  | .debug => "DEBUG"
  | .trace => "TRACE"

/-- Verbosity: a filter set to a number lets everything up to that number through. -/
def rank : Level → Nat
  | .error => 1
  | .warn => 2
  | .info => 3
  | .debug => 4
  | .trace => 5

end Level

/-- The part of the program that a notice comes from. -/
inductive Component where
  | tracker
  | poller
  | docker
  | singularity
  | slurm
  | listing
  | canceler
  | remote
  | ssh
  deriving DecidableEq, Repr

/-- The name by which a filter addresses a component. -/
def Component.path : Component → String
  | .tracker => "gateway_jobs::tracker"
  | .poller => "gateway_jobs::monitor::poller"
  | .docker => "gateway_jobs::monitor::docker"
  | .singularity => "gateway_jobs::monitor::singularity"
  | .slurm => "gateway_jobs::monitor::slurm"
  | .listing => "gateway_jobs::proctree"
  | .canceler => "gateway_jobs::cancel"
  | .remote => "gateway_jobs::remote"
  | .ssh => "gateway_jobs::remote::ssh"

structure Notice where
  level : Level
  component : Component
  text : String
  /-- The names of the details that are given along with the text. -/
  details : List String
  deriving DecidableEq, Repr

/-- Does a notice give the named detail? The text itself goes by the name `message`. -/
def Notice.gives (notice : Notice) (detail : String) : Bool :=
  ("message" :: notice.details).contains detail

end RemoteJobs.Log
