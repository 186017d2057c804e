import GuardedSum.Text.Inspect

namespace GuardedSum.Program

structure Options where
  -- The words whose sum is written.
  operands : Int32 × Int32 := (5, 10)
  -- The words whose sum is only reported.
  trailing : Int32 × Int32 := (3, 4)
  -- The message of an error to raise instead of writing the sum.
  fault : Option String := none
  deriving DecidableEq

inductive Setting where
  | operands (a b : Int32)
  | trailing (a b : Int32)
  | fault (message : String)
  deriving DecidableEq

namespace Options

def set (opts : Options) : Setting → Options
  | .operands a b => { opts with operands := (a, b) }
  | .trailing a b => { opts with trailing := (a, b) }
  | .fault m => { opts with fault := some m }

def setAll (opts : Options) (batch : List Setting) : Options :=
  batch.foldl set opts

def history (opts : Options) : List (List Setting) → List Options
  | [] => [opts]
  | b :: bs => opts :: history (opts.setAll b) bs

def inspect (opts : Options) : String :=
  Text.record "ProgramOpts"
    [("operands", Text.pair (Text.decimal opts.operands.1) (Text.decimal opts.operands.2)),
      ("trailing_operands",
        Text.pair (Text.decimal opts.trailing.1) (Text.decimal opts.trailing.2)),
      ("fault", Text.option (opts.fault.map Text.quoted))]

theorem setAll_append (opts : Options) (xs ys : List Setting) :
    opts.setAll (xs ++ ys) = (opts.setAll xs).setAll ys :=
  List.foldl_append

end Options

end GuardedSum.Program
