import RemoteJobs.Poll.Schedule
import RemoteJobs.Ssh.Settings
import RemoteJobs.Toml.Document
import RemoteJobs.Toml.Record

/-! The configuration: how `ssh` is called and how jobs are polled. Every setting has a standard value, so the
empty document is a configuration. -/
namespace RemoteJobs

open Toml

structure Config where
  ssh : Ssh.Settings
  monitor : Poll.Schedule
  deriving DecidableEq, Repr

/-- Why a text is no configuration. -/
inductive ConfigError where
  | syntaxError
  | misfit (cause : Misfit)
  | ssh (cause : Ssh.SettingsError)
  | monitor (cause : Poll.ScheduleError)

/-- Where and how a text departs from the format is not part of the message. -/
def ConfigError.message : ConfigError → String
  | .syntaxError | .misfit _ => "Failed to parse TOML: TOML parse error"
  | .ssh cause => cause.message
  | .monitor cause => "[monitor] " ++ cause.message

namespace Config

def standard : Config where
  ssh := {}
  monitor := Poll.Schedule.standard

def sshFields : Fields Ssh.Settings :=
  let standard : Ssh.Settings := {}
  Ssh.Settings.mk <$> .optional "user" .text standard.user
    <*> .optional "key_path" (.given .text) standard.keyPath
    <*> .optional "connect_timeout_seconds" (.natural 64) standard.connectTimeoutSeconds
    <*> .optional "server_alive_interval" (.natural 32) standard.serverAliveInterval
    <*> .optional "server_alive_count_max" (.natural 32) standard.serverAliveCountMax
    <*> .optional "command_timeout_seconds" (.natural 64) standard.commandTimeoutSeconds

def stepFields : Fields Poll.Step :=
  Poll.Step.mk <$> .required "interval_seconds" (.natural 64) <*> .required "until_seconds" (.natural 64)

def monitorFields : Fields Poll.Schedule :=
  let standard := Poll.Schedule.standard
  Poll.Schedule.mk <$> .optional "max_elapsed_seconds" (.natural 64) standard.maxElapsedSeconds
    <*> .optional "max_attempts" (.given .word) standard.maxAttempts
    <*> .optional "step" (.list (stepFields.decoder "PolicyStep")) standard.steps

def fields : Fields Config :=
  Config.mk <$> .optional "ssh" (sshFields.decoder "SshConfig") standard.ssh
    <*> .optional "monitor" (monitorFields.decoder "PolicyConfig") standard.monitor

/-- The first fault of a configuration, that of the `ssh` settings first. -/
def fault? (config : Config) : Option ConfigError :=
  match config.ssh.fault? with
  | some e => some (.ssh e)
  | none => config.monitor.fault?.map .monitor

def parse (text : String) : Except ConfigError Config :=
  match Toml.parse? text with
  | none => .error .syntaxError
  | some entries =>
    match fields.ofEntries entries with
    | .error misfit => .error (.misfit misfit)
    | .ok config =>
      match config.fault? with
      | some e => .error e
      | none => .ok config

end Config

end RemoteJobs
