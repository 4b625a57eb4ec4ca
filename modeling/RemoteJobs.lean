import RemoteJobs.Accounting
import RemoteJobs.Binary64
import RemoteJobs.Cli.Run
import RemoteJobs.Config
import RemoteJobs.Host.Scripted
import RemoteJobs.JobFile
import RemoteJobs.Main
import RemoteJobs.Ssh.Script
import RemoteJobs.Tracker
import RemoteJobs.Proofs.SessionRuns
import RemoteJobs.Proofs.StatusWalks
import RemoteJobs.Proofs.WatchFrames
import RemoteJobs.Proofs.TrackingRuns
import RemoteJobs.Proofs.ScanPasses
import RemoteJobs.Proofs.InstanceFamily
import RemoteJobs.Proofs.RunFamily
import RemoteJobs.Proofs.SingularityQueries
import RemoteJobs.Proofs.InstanceDecisions
import RemoteJobs.Proofs.RunDecisions
import RemoteJobs.Proofs.ListingEvidence
import RemoteJobs.Proofs.CancelAttempts
import RemoteJobs.Proofs.CallHistories
import RemoteJobs.Proofs.CleanUpDecisions
import RemoteJobs.Proofs.KillTargets
import RemoteJobs.Proofs.ShellWords
import RemoteJobs.Proofs.PollRuns
import RemoteJobs.Proofs.PollAnswers
import RemoteJobs.Proofs.TrackingCourses
import RemoteJobs.Proofs.CommandTraces
import RemoteJobs.Proofs.AccountingPhases
import RemoteJobs.Proofs.TransientFailures
import RemoteJobs.Proofs.Lifecycles
import RemoteJobs.Proofs.PollBudgets
import RemoteJobs.Proofs.ScheduleFaults
import RemoteJobs.Proofs.SchedulePacing
import RemoteJobs.Proofs.ExitCodes
import RemoteJobs.Proofs.RunSlots
import RemoteJobs.Proofs.InstanceSlots
import RemoteJobs.Proofs.ListingOrder
import RemoteJobs.Proofs.ProcessLines
import RemoteJobs.Proofs.TrackingEnds
import RemoteJobs.Proofs.ReportTexts
import RemoteJobs.Proofs.CommandExits
import RemoteJobs.Proofs.TextLines
import RemoteJobs.Proofs.ListingRoundTrips
import RemoteJobs.Proofs.AccountingTables
import RemoteJobs.Proofs.ExitCodeFiles
import RemoteJobs.Proofs.AcceptedSettings
import RemoteJobs.Proofs.ClockBounds
import RemoteJobs.Proofs.ScriptedHistories
import RemoteJobs.Proofs.SshCalls
import RemoteJobs.Proofs.RemotePaths
import RemoteJobs.Proofs.SettledScans
