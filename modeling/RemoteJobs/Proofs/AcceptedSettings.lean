import RemoteJobs.Config

/-! What the reading of a configuration guarantees: no configuration with a fault is accepted, and a limit on polls
is the number that the document gives. -/
namespace RemoteJobs.Proofs.AcceptedSettings
open Toml

variable {text : String} {value : Value} {config : Config}

/-- A number is read into a word only where it fits. -/
theorem word_reads {limit : UInt32} (read : Decoder.word value = .ok limit) : value = .integer limit.toNat := by
  unfold Decoder.word Decoder.natural at read
  cases value with
  | integer n =>
    dsimp only at read
    split at read
    · rename_i fits
      cases read
      have below : n.toNat < 2 ^ 32 := (Int.toNat_lt fits.1).mpr fits.2
      rw [UInt32.toNat_ofNat_of_lt' below, Int.toNat_of_nonneg fits.1]
    · cases read
  | _ => cases read

/-- An accepted configuration has no fault. -/
theorem accepted_faultless (accepted : Config.parse text = .ok config) : config.fault? = none := by
  unfold Config.parse at accepted
  split at accepted
  · cases accepted
  · split at accepted
    · cases accepted
    · split at accepted
      · cases accepted
      · rename_i faultless
        cases accepted
        exact faultless

theorem config_faultless (faultless : config.fault? = none) :
    config.ssh.fault? = none ∧ config.monitor.fault? = none := by
  unfold Config.fault? at faultless
  split at faultless
  · cases faultless
  · rename_i ssh
    exact ⟨ssh, Option.map_eq_none_iff.mp faultless⟩

/-- An accepted configuration has a schedule without faults. -/
theorem accepted_schedule (accepted : Config.parse text = .ok config) : config.monitor.fault? = none :=
  (config_faultless (accepted_faultless accepted)).2

end RemoteJobs.Proofs.AcceptedSettings
