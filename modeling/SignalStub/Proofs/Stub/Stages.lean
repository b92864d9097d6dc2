import SignalStub.Proofs.Stub.Lifecycle
import SignalStub.Stub.Program

/-! # The stages of a run

    The program goes through four stages: settings, traces, arguments and the service. Each of them
    can end the run in a way of its own, and the first that does hides all that come later. Settings
    that cannot be loaded are told of in the same way whatever the arguments ask for, and whatever
    the machine and the clients do.

    Behind the first two stages the arguments alone choose how far a run comes. Only the command
    that runs the service asks the machine for an address, so only there can the machine decide how
    the run ends.
-/

namespace SignalStub.Program

open CommandLine Http Log

/-! ## What is seen of a run -/

/-- What is seen of a run from outside. -/
structure Seen where
  exitCode : Nat
  stdout : List String
  stderr : String
  exchanges : List Exchange
  deriving DecidableEq, Repr

/-- What is seen of an outcome under some variables. -/
def seen (env : Environment) (outcome : Outcome) : Seen where
  exitCode := outcome.finish.exitCode
  stdout := outcome.stdout (filterOf env)
  stderr := outcome.finish.stderr
  exchanges := outcome.exchanges

/-- The settings are loaded and the traces are set up. -/
structure IsReady (exporter : Exporter) (env : Environment) (settings : Settings) : Prop where
  load : Settings.load env = .ok settings
  telemetry : telemetryFault? exporter env settings = none

section Plans
variable {exporter : Exporter} {env : Environment} {args : List String}

theorem IsReady.plan_eq {settings : Settings} (h : IsReady exporter env settings)
    (args : List String) : plan env args exporter = planCommand settings args := by
  unfold plan
  rw [h.load]
  dsimp only
  rw [h.telemetry]

theorem run_of_plan {outcome : Outcome} (h : plan env args exporter = .finish outcome)
    (machine : Machine) (drafts : List Draft) (signal : ShutdownSignal) :
    run machine env args drafts signal exporter = outcome := by
  rw [run, h]

/-- A plan that fails does so for one of two causes. Otherwise the arguments decide. -/
theorem plan_cases (exporter : Exporter) (env : Environment) (args : List String) :
    (∃ code ∈ [Failure.settingsCode, Failure.telemetryCode], ∃ cause,
      plan env args exporter = .finish (fail code cause)) ∨
      ∃ settings, IsReady exporter env settings ∧
        plan env args exporter = planCommand settings args := by
  cases hload : Settings.load env with
  | error error =>
    refine .inl ⟨_, List.mem_cons_self, error.message, ?_⟩
    rw [plan, hload]
  | ok settings =>
    cases hfault : telemetryFault? exporter env settings with
    | some cause =>
      refine .inl ⟨_, List.mem_cons_of_mem _ List.mem_cons_self, cause, ?_⟩
      unfold plan
      rw [hload]
      dsimp only
      rw [hfault]
    | none =>
      have hready : IsReady exporter env settings := ⟨hload, hfault⟩
      exact .inr ⟨settings, hready, hready.plan_eq args⟩

end Plans

/-! ## Failures that hide the arguments -/

section Ready
variable {exporter : Exporter} {env : Environment} {settings : Settings} {args : List String}

theorem plan_of_stop (hready : IsReady exporter env settings) {stop : Stop}
    (hparse : CommandLine.parse args = .error stop) :
    plan env args exporter = .finish
      { finish := .stopped stop, events := telemetryEvents settings, exchanges := [] } := by
  rw [hready.plan_eq, planCommand, hparse]

theorem plan_of_noCommand (hready : IsReady exporter env settings)
    (hparse : CommandLine.parse args = .ok none) :
    plan env args exporter = .finish
      { finish := .completed
        events := telemetryEvents settings ++ [noCommandEvent]
        exchanges := [] } := by
  rw [hready.plan_eq, planCommand, hparse]

theorem plan_of_listen (hready : IsReady exporter env settings) {given : ListenArgs}
    (hparse : CommandLine.parse args = .ok (some given)) :
    plan env args exporter = .serve (given.apply settings) (telemetryEvents settings) := by
  rw [hready.plan_eq, planCommand, hparse]

end Ready

/-! ## All stages -/

/-- The program fails with its service. -/
theorem failed_of_ofEnding {failure : Failure} :
    ∀ {ending : Ending}, Finish.ofEnding ending = .failed failure → ending = .failed failure
  | .failed _, h => congrArg Ending.failed (Finish.failed.inj h)

/-- Whatever fails, on every machine the program tells so in words of its own. -/
theorem isOwn_of_run_failed {exporter : Exporter} {env : Environment} {args : List String}
    {machine : Machine} {drafts : List Draft} {signal : ShutdownSignal} {failure : Failure}
    (hfailed : (run machine env args drafts signal exporter).finish = .failed failure) :
    failure.IsOwn := by
  rcases plan_cases exporter env args with ⟨code, hcode, cause, hplan⟩ | ⟨settings, hready, hplan⟩
  · rw [run_of_plan hplan] at hfailed
    obtain rfl := Finish.failed.inj hfailed
    have hcodes : ∀ code ∈ [Failure.settingsCode, Failure.telemetryCode],
        code ∈ Failure.ownTexts.map Prod.fst := by decide
    exact Failure.isOwn_ofCode (hcodes code hcode)
  · cases hparse : CommandLine.parse args with
    | error stop =>
      rw [run_of_plan (plan_of_stop hready hparse)] at hfailed
      cases hfailed
    | ok command =>
      cases command with
      | none =>
        rw [run_of_plan (plan_of_noCommand hready hparse)] at hfailed
        cases hfailed
      | some given =>
        obtain ⟨-, haccepted⟩ := (Settings.load_eq_ok_iff env settings).mp hready.load
        have haccepted' : WritePath.check (given.apply settings).writePath = .ok () := haccepted
        rw [run, plan_of_listen hready hparse] at hfailed
        have hending : (machine.surroundings.listen (given.apply settings) drafts signal).ending =
            .failed failure := failed_of_ofEnding hfailed
        exact Surroundings.isOwn_of_listen_failed haccepted' drafts signal hending

end SignalStub.Program
