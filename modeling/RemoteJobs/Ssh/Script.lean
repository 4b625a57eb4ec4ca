import RemoteJobs.Ssh.Client
import RemoteJobs.Text.Layout

/-! A scripted `ssh` program. An entry answers the commands that begin with its lead: the first reply goes
to the first of them, and so on, and the last reply repeats. -/
namespace RemoteJobs.Ssh

structure ScriptEntry where
  lead : String
  replies : List Reply
  deriving DecidableEq, Repr

/-- The command is the last argument of a call. -/
def ScriptEntry.fits (entry : ScriptEntry) (arguments : List String) : Bool :=
  Text.begins entry.lead (arguments.getLastD "")

/-- Plays a script. Every earlier call that fits an entry counts as a use of it, whichever entry answered
that call. -/
def scripted (script : List ScriptEntry) : Program := fun earlier arguments =>
  match script.find? (·.fits arguments) with
  | none => some {}
  | some entry =>
    let uses := earlier.countP entry.fits
    some (entry.replies.getD (min uses (entry.replies.length - 1)) {})

/-- A machine on which there is no `ssh`. -/
def absent : Program := fun _ _ => none

end RemoteJobs.Ssh
