import CatalogScout.Commands.Session
import CatalogScout.Proofs.Pool.Conservation
import CatalogScout.Proofs.Selection.Refusal

/-!
Setting up a job.

Everything a user gives may be wrong: the file of settings may be no text, an assignment may have no
key, a selection may not be readable, the size of the pool may be no number.  A bad value is told
and ends the run with code 2.  So a run crashes while its job is set up only where a failure is not
a bad value, and that leaves the two things that a token of a selection can have in it.
-/

namespace CatalogScout

open Discovery Commands Markup Text

variable {failure : Failure}

/-! ## Readers of settings -/

namespace Settings

theorem isBadValue_of_ofOctets {octets : List UInt8} (h : ofOctets octets = .error failure) :
    failure.isBadValue = true := by
  unfold ofOctets at h
  split at h
  · cases h
  · obtain rfl := Except.error.inj h
    rfl

theorem isBadValue_of_readAssignment {text : String}
    (h : readAssignment text = .error failure) : failure.isBadValue = true := by
  unfold readAssignment at h
  split at h
  · obtain rfl := Except.error.inj h
    rfl
  · split at h
    · obtain rfl := Except.error.inj h
      rfl
    · cases h

theorem isBadValue_of_integer {s : Settings} {key : String} {default : Int}
    (h : s.integer key default = .error failure) : failure.isBadValue = true := by
  unfold integer at h
  split at h
  · cases h
  · split at h
    · cases h
    · split at h
      · cases h
      · obtain rfl := Except.error.inj h
        rfl

/-- The settings with a profile in them, unless it is empty. -/
def withProfile (s : Settings) : Option String → Settings
  | none => s
  | some name => if name.isEmpty then s else s.put profileKey name

theorem ofJob_eq (file : Option (List UInt8)) (assignments : List String)
    (profile : Option String) :
    ofJob file assignments profile = (do
      let base ← file.elim (.ok ∅) ofOctets
      let entries ← assignments.mapM readAssignment
      return (base.putAll entries).withProfile profile) := by
  cases file with
  | none => cases profile <;> rfl
  | some octets => cases profile <;> rfl

theorem isBadValue_of_ofJob {file : Option (List UInt8)} {assignments : List String}
    {profile : Option String} (h : ofJob file assignments profile = .error failure) :
    failure.isBadValue = true := by
  rw [ofJob_eq] at h
  rcases Except.of_bind_error h with hfile | ⟨base, -, h⟩
  · cases file with
    | none => cases hfile
    | some octets => exact isBadValue_of_ofOctets hfile
  · rcases Except.of_bind_error h with hassignments | ⟨entries, -, h⟩
    · obtain ⟨text, -, htext⟩ := List.exists_of_mapM_error hassignments
      exact isBadValue_of_readAssignment htext
    · cases h

end Settings

namespace Job

theorem isBadValue_of_pool {job : Settings} (h : pool job = .error failure) :
    failure.isBadValue = true := by
  unfold pool at h
  rcases Except.of_bind_error h with hsize | ⟨size, -, h⟩
  · exact Settings.isBadValue_of_integer hsize
  · unfold Pool.ofSize at h
    split at h
    · cases h
    · obtain rfl := Except.error.inj h
      rfl

/-- The texts that a job selects by. -/
def selections (job : Settings) : List String :=
  match job.get? databaseKey with
  | some db => [databaseSelection job db]
  | none =>
    [((job.within scope).get? "whitelist").getD "", ((job.within scope).get? "blacklist").getD ""]

theorem refusedIn_of_policy [CharacterNames] {job : Settings}
    (h : policy job = .error failure) :
    failure.isBadValue = true ∨
      ∃ selection ∈ selections job, Rule.RefusedIn selection failure := by
  cases hdb : job.get? databaseKey with
  | some db =>
    rw [policy, hdb] at h
    rw [selections, hdb]
    obtain ⟨selection, hselection, hrefused⟩ := Policy.refusedIn_of_ofTexts h
    rcases List.mem_cons.1 hselection with rfl | hempty
    · exact Or.inr ⟨_, List.mem_singleton_self _, hrefused⟩
    · obtain rfl := List.mem_singleton.1 hempty
      -- The empty text has no token.
      obtain ⟨token, htoken, -⟩ := hrefused
      cases htoken
  | none =>
    rw [policy, hdb] at h
    rw [selections, hdb]
    change (if job.contains whitelistKey then _ else _) = _ at h
    split at h
    · exact Or.inr (Policy.refusedIn_of_ofTexts h)
    · obtain rfl := Except.error.inj h
      exact Or.inl rfl

end Job

/-! ## Jobs -/

namespace Commands

/-- A token of what a job selects by is refused, but not as a bad value. -/
def CrashingToken [CharacterNames] (options : JobOptions) (failure : Failure) : Prop :=
  ∃ job, Settings.ofJob options.file options.assignments options.profile = .ok job ∧
    ∃ selection ∈ Job.selections job, ∃ token ∈ Rule.pieces ',' selection.toList,
      Rule.Unforeseen token failure

theorem refusal_of_ofOptions [CharacterNames] {login : Login} {options : JobOptions}
    (h : Context.ofOptions login options = .error failure) :
    failure.isBadValue = true ∨ CrashingToken options failure := by
  unfold Context.ofOptions at h
  rcases Except.of_bind_error h with hjob | ⟨job, hjob, h⟩
  · exact Or.inl (Settings.isBadValue_of_ofJob hjob)
  rcases Except.of_bind_error h with hfinder | ⟨finder, -, h⟩
  · unfold Finder.ofJob at hfinder
    rcases Except.of_bind_error hfinder with hpolicy | ⟨policy, -, hfinder⟩
    · rcases Job.refusedIn_of_policy hpolicy with hbad | ⟨selection, hselection, htoken⟩
      · exact Or.inl hbad
      · obtain ⟨token, htoken, hbad | hcrash⟩ := htoken
        · exact Or.inl hbad
        · exact Or.inr ⟨job, hjob, selection, hselection, token, htoken, hcrash⟩
    · cases hfinder
  rcases Except.of_bind_error h with hsupply | ⟨supply, -, h⟩
  · unfold Supply.ofJob at hsupply
    rcases Except.of_bind_error hsupply with hpool | ⟨pool, -, hsupply⟩
    · exact Or.inl (Job.isBadValue_of_pool hpool)
    · cases hsupply
  · cases h

/-! ## Runs -/

/-- A run that told what is wrong with its job and ended with code 2. -/
def told [Escaping] (options : JobOptions) (failure : Failure) : Session :=
  ⟨[.error (escaped failure.message)], [options.verbose], [], .exit 2⟩

/-- A run that ended with a failure nobody expected, and told nothing. -/
def crashed (options : JobOptions) (failure : Failure) : Session :=
  ⟨[], [options.verbose], [], .crash failure⟩

theorem ofJobFailure_of_isBadValue [Escaping] (h : failure.isBadValue = true) :
    Report.ofJobFailure failure = .failed (escaped failure.message) 2 := by
  rw [Report.ofJobFailure, h]
  rfl

theorem ofJobFailure_of_unforeseen [Escaping] {token : List Char}
    (h : Rule.Unforeseen token failure) :
    Report.ofJobFailure failure = ⟨[], .crash failure⟩ := by
  cases h with
  | noPart => rfl
  | count => rfl

section Runs

variable [CharacterNames] [Escaping]

/-- The job is set up, or every command ends with what is wrong with it. -/
def ReadyOrTold (s : Surroundings) (options : JobOptions) : Prop :=
  (∃ context, Context.ofOptions s.login options = .ok context) ∨
    ∃ failure, Context.ofOptions s.login options = .error failure ∧
      ∀ name arguments, runCommand s options name arguments = told options failure

theorem runCommand_of_error {s : Surroundings} {options : JobOptions}
    (h : Context.ofOptions s.login options = .error failure) (name : CommandName)
    (arguments : List String) :
    runCommand s options name arguments =
      ⟨(Report.ofJobFailure failure).printed, [options.verbose], [],
        (Report.ofJobFailure failure).ending⟩ := by
  rw [runCommand, h]

/-- Whatever file, assignments and profile a job is made of, it is set up, or it is told to be
wrong with code 2, or a token of its selection crashes every command. -/
theorem ready_or_told_unless_crashing (s : Surroundings) (options : JobOptions) :
    ReadyOrTold s options ∨
      ∃ failure, CrashingToken options failure ∧
        ∀ name arguments, runCommand s options name arguments = crashed options failure := by
  cases hready : Context.ofOptions s.login options with
  | ok context => exact Or.inl (Or.inl ⟨context, hready⟩)
  | error failure =>
    rcases refusal_of_ofOptions hready with hbad | hcrash
    · refine Or.inl (Or.inr ⟨failure, hready, fun name arguments => ?_⟩)
      rw [runCommand_of_error hready, ofJobFailure_of_isBadValue hbad]
      rfl
    · refine Or.inr ⟨failure, hcrash, fun name arguments => ?_⟩
      obtain ⟨_, -, _, -, _, -, htoken⟩ := hcrash
      rw [runCommand_of_error hready, ofJobFailure_of_unforeseen htoken]
      rfl

theorem not_readyOrTold_of_crash {s : Surroundings} {options : JobOptions}
    (h : Context.ofOptions s.login options = .error failure)
    (hcrash : Report.ofJobFailure failure = ⟨[], .crash failure⟩) : ¬ReadyOrTold s options := by
  rintro (⟨context, hready⟩ | ⟨failure', -, htold⟩)
  · rw [h] at hready
    cases hready
  · have hrun := htold .tables []
    rw [runCommand_of_error h, hcrash] at hrun
    cases hrun

end Runs

/-! ## Tokens that crash -/

/-- A run that finds nothing around it. -/
def nowhere : Surroundings where
  files := .empty
  stores := .empty
  login _ host := .ok host
  workspace := ⟨fun _ => .ok [], fun _ _ => .ok [], fun _ => .ok {}⟩

/-- A whitelist and nothing else. -/
def selecting (selection : String) : JobOptions :=
  ⟨none, none, [Job.whitelistKey ++ "=" ++ selection], false⟩

/-- What keeps a job from being set up. -/
def refusal? [CharacterNames] (login : Login) (options : JobOptions) : Option Failure :=
  match Context.ofOptions login options with
  | .ok _ => none
  | .error failure => some failure

theorem ofOptions_of_refusal? [CharacterNames] {login : Login} {options : JobOptions}
    (h : refusal? login options = some failure) :
    Context.ofOptions login options = .error failure := by
  unfold refusal? at h
  split at h
  · cases h
  · next hready => rw [hready, Option.some.inj h]

/-- A lone dot crashes every command, and so does the least count that is too large. -/
theorem dot_and_count_crash :
    Context.ofOptions nowhere.login (selecting ".") = .error .emptyToken ∧
      ¬ReadyOrTold nowhere (selecting ".") ∧
      Context.ofOptions nowhere.login (selecting "a\x7b4294967295\x7d") =
        .error (.badPattern "a\x7b4294967295\x7d".toList .countTooLarge) ∧
      ¬ReadyOrTold nowhere (selecting "a\x7b4294967295\x7d") := by
  have hdot : Context.ofOptions nowhere.login (selecting ".") = .error .emptyToken :=
    ofOptions_of_refusal? (by decide +kernel)
  have hcount : Context.ofOptions nowhere.login (selecting "a\x7b4294967295\x7d") =
      .error (.badPattern "a\x7b4294967295\x7d".toList .countTooLarge) :=
    ofOptions_of_refusal? (by decide +kernel)
  exact ⟨hdot, not_readyOrTold_of_crash hdot rfl, hcount, not_readyOrTold_of_crash hcount rfl⟩

end Commands
end CatalogScout
