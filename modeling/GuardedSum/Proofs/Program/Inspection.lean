import GuardedSum.Block
import GuardedSum.Program.Run
import GuardedSum.Proofs.Text.Visible

namespace GuardedSum

open Text

namespace Program

theorem shows_words :
    Shows (fun p : Int32 × Int32 => Text.pair (decimal p.1) (decimal p.2)) id :=
  (shows_decimal.comp Prod.fst).pair (shows_decimal.comp Prod.snd)

theorem visible_words (a b : Int32) : Visible (Text.pair (decimal a) (decimal b)) :=
  visible_pair (visible_decimal a) (visible_decimal b)

namespace Options

theorem shows_inspect : Shows inspect id := by
  have operands := (shows_words.comp operands).prepend ("operands" ++ ": ")
  have trailing := (shows_words.comp trailing).prepend ("trailing_operands" ++ ": ")
  have fault := (shows_quoted.option.comp fault).prepend ("fault" ++ ": ")
  have shown := operands.commas_cons (trailing.commas_cons fault.commas_singleton)
  unfold inspect
  refine Shows.record "ProgramOpts" ?_
  simp only [List.map_cons, List.map_nil]
  refine shown.mono fun o o' same => ?_
  cases o
  cases o'
  simpa using same

theorem visible_inspect (opts : Options) : Visible opts.inspect := by
  refine visible_record (by decide) ?_
  simp only [List.forall_mem_cons]
  exact ⟨⟨by decide, visible_words _ _⟩, ⟨by decide, visible_words _ _⟩,
    ⟨by decide, visible_option visible_quoted _⟩, nofun⟩

end Options

namespace Report

theorem shows_inspect : Shows inspect id := by
  have sum := (shows_decimal.option.comp sum).prepend ("sum" ++ ": ")
  have caught := (shows_quoted.option.comp caught).prepend ("caught" ++ ": ")
  have trailing := (shows_decimal.comp trailing).prepend ("trailing" ++ ": ")
  have shown := sum.commas_cons (caught.commas_cons trailing.commas_singleton)
  unfold inspect
  refine Shows.record "RunReport" ?_
  simp only [List.map_cons, List.map_nil]
  refine shown.mono fun r r' same => ?_
  cases r
  cases r'
  simpa using same

theorem visible_inspect (r : Report) : Visible r.inspect := by
  refine visible_record (by decide) ?_
  simp only [List.forall_mem_cons]
  exact ⟨⟨by decide, visible_option visible_decimal _⟩,
    ⟨by decide, visible_option visible_quoted _⟩, ⟨by decide, visible_decimal _⟩, nofun⟩

end Report

end Program

namespace Guarded

theorem shows_inspect : Shows inspect id := by
  have completed : Shows (fun n => Text.variant "Completed" [decimal n]) id :=
    shows_decimal.commas_singleton.variant "Completed"
  have caught : Shows (fun e => Text.variant "Caught" [quoted e]) id :=
    shows_quoted.commas_singleton.variant "Caught"
  intro g g' r r' hr hr' same
  cases g with
  | completed n =>
    cases g' with
    | completed n' =>
      simp only [inspect] at same
      exact (completed hr hr' same).imp_left (congrArg Guarded.completed)
    | caught e => simp [inspect, Text.variant] at same
  | caught e =>
    cases g' with
    | completed n => simp [inspect, Text.variant] at same
    | caught e' =>
      simp only [inspect] at same
      exact (caught hr hr' same).imp_left (congrArg Guarded.caught)

theorem visible_inspect (g : Guarded Int32 String) : Visible g.inspect := by
  cases g with
  | completed n => exact visible_variant (by decide) (by simpa using visible_decimal n)
  | caught e => exact visible_variant (by decide) (by simpa using visible_quoted e)

end Guarded

-- No message, whatever it is made of, can pass for the rest of a value: different values are
-- inspected as different texts, and no text has a control character below the space in it.
theorem inspect_unambiguous :
    (Function.Injective Program.Options.inspect ∧ Function.Injective Program.Report.inspect ∧
      Function.Injective Guarded.inspect) ∧
    (∀ opts : Program.Options, Visible opts.inspect) ∧
    (∀ r : Program.Report, Visible r.inspect) ∧
    ∀ g : Guarded Int32 String, Visible g.inspect := by
  refine ⟨⟨?options, ?report, ?guarded⟩, Program.Options.visible_inspect,
    Program.Report.visible_inspect, Guarded.visible_inspect⟩
  case options => exact fun o o' same => Program.Options.shows_inspect.eq same
  case report => exact fun r r' same => Program.Report.shows_inspect.eq same
  case guarded => exact fun g g' same => Guarded.shows_inspect.eq same

-- A message that looks like the rest of the options is shown as a message all the same.
example : Program.Options.inspect { fault := some "\"), fault: None" } =
    "ProgramOpts \x7b operands: (5, 10), trailing_operands: (3, 4), " ++
      "fault: Some(\"\\\"), fault: None\") \x7d" := by
  decide

end GuardedSum
