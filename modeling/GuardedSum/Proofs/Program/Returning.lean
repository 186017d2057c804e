import GuardedSum.Program.Run
import GuardedSum.Proofs.Guarded.Returning

namespace GuardedSum.Program

variable {γ κ : Type} {console : Console γ κ} {inv : κ → Prop}
variable (returns : ∀ text, (console.line text).Returns inv)
include returns

theorem ask_returns (text : String) : (ask console text).Returns inv :=
  .mapError ProgramError.output (x := console.request text) (returns text)

theorem run_returns (opts : Options) : (run console opts).Returns inv := by
  refine .inSpan span (.bind (.guarded ?body (fun e => ?handler) ?completion) fun _ => ?rest)
  case body =>
    refine .bind (.emit _) fun _ => ?_
    match opts.fault with
    | some m => exact .throw _
    | none => exact .bind (ask_returns returns _) fun _ => .pure _
  case handler => exact .bind (.emit _) fun _ => ask_returns returns _
  case completion => exact ask_returns returns completionLine
  case rest => exact .bind (.emit _) fun _ => .pure _

end GuardedSum.Program
