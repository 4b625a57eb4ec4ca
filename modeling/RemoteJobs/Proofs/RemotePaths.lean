import RemoteJobs.Monitor.Singularity
import RemoteJobs.Proofs.ProcessLines
import RemoteJobs.Proofs.ShellWords
import RemoteJobs.Proofs.SingularityQueries

/-! Where the exit code file of a job is looked for. Its path is that of the output directory with one more name,
so it begins with a slash exactly where the directory does. Blank parts are filled in with a slash, but a root
directory is taken as it is given: under a relative one both paths hang on the directory of the login. -/
namespace RemoteJobs.Proofs.RemotePaths
open Monitor ProcessLines SessionRuns SingularityQueries ShellWords

variable {rel : List Char} {path stem : String}

/-- The path does not hang on the directory that it is looked up in. -/
def Absolute (path : String) : Prop :=
  path.toList.head? = some '/'

instance : Decidable (Absolute path) :=
  inferInstanceAs (Decidable (path.toList.head? = some '/'))

/-- What is left of a path without the slashes at its end. -/
structure Stem (path stem : String) : Prop where
  whole : ∃ slashes, path.toList = stem.toList ++ slashes ∧ ∀ c ∈ slashes, c = '/'
  ends : stem.toList.getLast? ≠ some '/'

/-! ### Joined paths -/

theorem stem_iff : (path.toList.reverse.dropWhile (· == '/')).reverse = stem.toList ↔ Stem path stem := by
  rw [endRun_iff]
  constructor
  · rintro ⟨whole, stop⟩
    refine ⟨by simpa using whole, fun last => ?_⟩
    simpa using stop '/' last
  · rintro ⟨whole, ends⟩
    refine ⟨by simpa using whole, fun c last => ?_⟩
    rw [Option.mem_def] at last
    simpa using fun same => ends (last.trans (congrArg some same))

/-- A name is put behind the stem of its base and a single slash. -/
theorem join_named (named : rel.head? ≠ some '/') (filled : rel ≠ []) (path : String) :
    ∃ stem, Stem path stem ∧ Path.join path.toList rel = stem.toList ++ '/' :: rel := by
  refine ⟨String.ofList (path.toList.reverse.dropWhile (· == '/')).reverse, stem_iff.mp (by simp), ?_⟩
  have kept : rel.dropWhile (· == '/') = rel :=
    (dropWhile_stopped fun c first => by simpa using fun same : c = '/' => named (same ▸ first)).1
  unfold Path.join
  dsimp only
  rw [kept, if_neg (by simpa using filled), String.toList_ofList]

@[simp] theorem absolute_ofList (s : List Char) : Absolute (String.ofList s) ↔ s.head? = some '/' := by
  rw [Absolute, String.toList_ofList]

theorem rooted_named {s : List Char} (rooted : s.head? = some '/') :
    String.ofList s ≠ "" ∧ Absolute (String.ofList s) := by
  refine ⟨fun empty => ?_, (absolute_ofList s).mpr rooted⟩
  rw [String.ofList_eq_empty_iff] at empty
  simp [empty] at rooted

/-- A path joined to a base begins as the base does. -/
theorem join_absolute_iff (named : rel.head? ≠ some '/') (given : path ≠ "") :
    Path.join path.toList rel ≠ [] ∧ ((Path.join path.toList rel).head? = some '/' ↔ Absolute path) := by
  by_cases filled : rel = []
  · simp [Path.join, filled, Absolute, given]
  · obtain ⟨stem, ⟨⟨slashes, whole, only⟩, _⟩, joined⟩ := join_named named filled path
    rw [joined, Absolute, whole]
    refine ⟨by simp, ?_⟩
    cases begins : stem.toList with
    | cons c rest => simp
    | nil =>
      -- The path has nothing but slashes, and at least one.
      cases slashes with
      | nil => exact absurd (String.ext (by rw [whole, begins]; rfl)) given
      | cons c rest => simp [only c List.mem_cons_self]

/-! ### The two paths of a job -/

/-- The output directory is given absolute, or the system has no root directory that is relative. -/
def Rooted (ctx : Context) : Prop :=
  Absolute (Text.trimmed ctx.job.execSystemOutputDir) ∨
    ∀ root, ctx.system.rootDir = some root → Text.isBlankText root = true ∨ Absolute (Text.trimmed root)

theorem trimmed_filled {text : String} (filled : Text.isBlankText text = false) : Text.trimmed text ≠ "" := by
  intro empty
  rw [Text.trimmed, String.ofList_eq_empty_iff] at empty
  simp [Text.isBlankText, empty] at filled

theorem outputDir_absolute_iff (ctx : Context) :
    ctx.outputDir ≠ "" ∧ (Absolute ctx.outputDir ↔ Rooted ctx) := by
  unfold Context.outputDir Rooted
  generalize ctx.job.execSystemOutputDir = given
  rw [Text.trimmed, absolute_ofList]
  generalize Text.trim given.toList = dir
  by_cases rooted : dir.head? = some '/'
  · obtain ⟨filled, absolute⟩ := rooted_named rooted
    rw [if_pos rooted]
    exact ⟨filled, iff_of_true absolute (.inl rooted)⟩
  · obtain ⟨filled, absolute⟩ := rooted_named (s := '/' :: dir) rfl
    rw [if_neg rooted]
    cases ctx.system.rootDir with
    | none => exact ⟨filled, iff_of_true absolute (.inr fun root none => by cases none)⟩
    | some root =>
      have read : (some root).bind Text.nonBlank? =
        if Text.isBlankText root then none else some (Text.trimmed root) := rfl
      rw [read]
      cases blank : Text.isBlankText root with
      | true =>
        exact ⟨filled, iff_of_true absolute (.inr fun other same => .inl (Option.some.inj same ▸ blank))⟩
      | false =>
        obtain ⟨filled, begins⟩ := join_absolute_iff rooted (trimmed_filled blank)
        simp [rooted, blank, filled, begins]

theorem name_begins : Context.exitCodeFileName.toList.head? ≠ some '/' ∧ Context.exitCodeFileName.toList ≠ [] := by
  decide

/-- The exit code file of a job is named behind the stem of its output directory. Both paths are absolute unless the
directory is given relative under a relative root. The one command that settles how a job ended prints this file. -/
theorem exit_code_file_lies_in_output_directory (ctx : Context) :
    (∃ stem, Stem ctx.outputDir stem ∧ ctx.exitCodeFile = stem ++ "/tapisjob.exitcode") ∧
    (Absolute ctx.outputDir ↔ Rooted ctx) ∧ (Absolute ctx.exitCodeFile ↔ Absolute ctx.outputDir) ∧
    ∀ {σ : Type} (host : Host σ) (before : σ), ∃ command answer after,
      Yields (Singularity.conclude host ctx.target) before (Singularity.readingOfExitCode answer)
        [.executed command answer] after ∧
      Shell.split command = some ["cat", ctx.exitCodeFile] := by
  obtain ⟨begins, filled⟩ := name_begins
  obtain ⟨named, absolute⟩ := outputDir_absolute_iff ctx
  obtain ⟨stem, left, joined⟩ := join_named begins filled ctx.outputDir
  refine ⟨⟨stem, left, ?_⟩, absolute, ?_, ?_⟩
  · rw [Context.exitCodeFile, joined]
    exact String.ext (by simp [Context.exitCodeFileName])
  · rw [Context.exitCodeFile, absolute_ofList]
    exact (join_absolute_iff begins named).2
  · intro σ host before
    exact ⟨_, _, _, yields_conclude before, split_behind _ ["cat"] (by decide) (by decide) _⟩

/-- A job whose output directory hangs off a relative root. -/
def strayed : Context where
  job := Job.initial .nil ⟨0, 0⟩ .fork "cluster" "jobs/out"
  app := ⟨"sleeper", "0.1", .singularity, some .run⟩
  system := ⟨"cluster", "cluster.example.org", 22, none, some "scratch", none⟩

theorem relative_root_is_kept :
    strayed.outputDir = "scratch/jobs/out" ∧ ¬Absolute strayed.outputDir ∧ ¬Absolute strayed.exitCodeFile ∧
      Command.printFile strayed.target.exitCodeFile = "cat scratch/jobs/out/tapisjob.exitcode" := by
  decide +kernel

end RemoteJobs.Proofs.RemotePaths
