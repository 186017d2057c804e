import GuardedSum.CommandLine.Invocation
import GuardedSum.Proofs.Program.Stdout

namespace GuardedSum.CommandLine

-- Arguments that lead from some settings to others. They set options that are not set yet, one
-- after another. Any text may be the value of a fault, but only one that does not begin with a dash
-- may be an argument of its own.
inductive Spelled : Settings → List String → Settings → Prop
  | nil {s} : Spelled s [] s
  | short {s as s'} :
    s.verbose = false → Spelled { s with verbose := true } as s' → Spelled s ("-v" :: as) s'
  | long {s as s'} :
    s.verbose = false → Spelled { s with verbose := true } as s' → Spelled s ("--verbose" :: as) s'
  | joined {s as s'} (m : String) :
    s.fault = none → Spelled { s with fault := some m } as s' →
    Spelled s (("--inject-fault=" ++ m) :: as) s'
  | apart {s as s'} (m : String) :
    s.fault = none → m.toList.head? ≠ some '-' → Spelled { s with fault := some m } as s' →
    Spelled s ("--inject-fault" :: m :: as) s'

theorem Spelled.begins {s s' : Settings} {a : String} {as : List String}
    (h : Spelled s (a :: as) s') : a.toList.head? = some '-' := by
  cases h with
  | short _ _ | long _ _ | apart _ _ _ => rfl
  | joined m => simp

namespace Token

theorem ofArgument_joined (m : String) :
    ofArgument ("--inject-fault=" ++ m) = .long "inject-fault" (some m) := by
  simp [ofArgument]

theorem ofArgument_plain {m : String} (h : m.toList.head? ≠ some '-') : ofArgument m = .plain m := by
  unfold ofArgument
  split <;> simp_all

end Token

namespace Flag

theorem ofName?_verbose (scope : Scope) : ofName? scope "verbose" = some .verbose := by
  cases scope <;> rfl

theorem ofLetter?_verbose (scope : Scope) : ofLetter? scope 'v' = some .verbose := by
  cases scope <;> rfl

end Flag

def Settings.reading (s : Settings) : Reading where
  verbose := s.verbose
  fault := s.fault

namespace Reading

-- What was read comes to the settings once nothing is pending any more.
def Settles (r : Reading) (s : Settings) : Prop :=
  r.settle = .ok s.reading

variable {r : Reading} {s : Settings}

theorem settles_reading (s : Settings) : s.reading.Settles s :=
  rfl

theorem settles_pending (m : String) (unset : s.fault = none) :
    ({ s.reading with pending := some (some m) } : Reading).Settles { s with fault := some m } := by
  simp [Settles, settle, setFault, Settings.reading, unset]

variable (h : r.Settles s) (scope : Scope)
include h

theorem finish_of_settles : r.finish = .ok s := by
  rw [finish, h]
  rfl

theorem raise_verbose (unset : s.verbose = false) :
    r.raise scope .verbose = .ok ({ s with verbose := true } : Settings).reading := by
  obtain ⟨_, fault⟩ := s
  cases unset
  rw [raise, h]
  rfl

theorem readLetter_verbose (unset : s.verbose = false) :
    r.readLetter scope 'v' = .ok ({ s with verbose := true } : Settings).reading := by
  rw [readLetter, Flag.ofLetter?_verbose]
  exact raise_verbose h scope unset

theorem readLong_verbose (unset : s.verbose = false) :
    r.readLong scope "verbose" none = .ok ({ s with verbose := true } : Settings).reading := by
  unfold readLong
  rw [if_neg (by decide), Flag.ofName?_verbose]
  exact raise_verbose h scope unset

theorem readLong_joined (m : String) (unset : s.fault = none) :
    r.readLong scope "inject-fault" (some m) =
      .ok ({ s with fault := some m } : Settings).reading := by
  obtain ⟨verbose, _⟩ := s
  cases unset
  unfold readLong
  rw [if_pos rfl, h]
  rfl

theorem readLong_apart :
    r.readLong scope "inject-fault" none = .ok { s.reading with pending := some none } := by
  unfold readLong
  rw [if_pos rfl, h]
  rfl

end Reading

section

variable {scope : Scope} {r r' : Reading} {a name w : String} {as : List String}
variable {value : Option String} {letters : List Char}

theorem readOptions_long (token : Token.ofArgument a = .long name value)
    (h : r.readLong scope name value = .ok r') :
    readOptions scope r (a :: as) = readOptions scope r' as := by
  rw [readOptions.eq_def]
  simp only [token, h]
  rfl

theorem readOptions_cluster (token : Token.ofArgument a = .cluster letters)
    (h : letters.foldlM (Reading.readLetter scope) r = .ok r') :
    readOptions scope r (a :: as) = readOptions scope r' as := by
  rw [readOptions.eq_def]
  simp only [token, h]
  rfl

theorem readOptions_plain (token : Token.ofArgument a = .plain w) (awaits : r.awaits) :
    readOptions scope r (a :: as) = readOptions scope { r with pending := some (some w) } as := by
  rw [readOptions.eq_def]
  simp only [token, awaits, if_true]

end

theorem readOptions_of_spelled {s s' : Settings} {as : List String} (spelled : Spelled s as s')
    (scope : Scope) {r : Reading} (h : r.Settles s) : readOptions scope r as = .ok s' := by
  induction spelled generalizing r with
  | nil => exact Reading.finish_of_settles h
  | @short s as s' unset _ ih =>
    have letters_eq : ['v'].foldlM (Reading.readLetter scope) r =
        .ok ({ s with verbose := true } : Settings).reading := by
      rw [List.foldlM_cons, Reading.readLetter_verbose h scope unset]
      rfl
    rw [readOptions_cluster rfl letters_eq]
    exact ih (Reading.settles_reading _)
  | @long s as s' unset _ ih =>
    rw [readOptions_long rfl (Reading.readLong_verbose h scope unset)]
    exact ih (Reading.settles_reading _)
  | @joined s as s' m unset _ ih =>
    rw [readOptions_long (Token.ofArgument_joined m) (Reading.readLong_joined h scope m unset)]
    exact ih (Reading.settles_reading _)
  | @apart s as s' m unset plain _ ih =>
    -- The value stays pending until the next option or the end.
    rw [readOptions_long rfl (Reading.readLong_apart h scope),
      readOptions_plain (Token.ofArgument_plain plain) rfl]
    exact ih (Reading.settles_pending m unset)

theorem read_of_begins {a : String} {as : List String} (dash : a.toList.head? = some '-') :
    read (a :: as) = readOptions .program {} (a :: as) := by
  unfold read
  split <;> simp_all

theorem read_of_spelled {as : List String} {s : Settings} (spelled : Spelled {} as s) :
    read as = .ok s ∧ read ("run" :: as) = .ok s := by
  have start : ({} : Reading).Settles {} := rfl
  constructor
  · match as with
    | [] => exact readOptions_of_spelled spelled .program start
    | a :: as =>
      rw [read_of_begins spelled.begins]
      exact readOptions_of_spelled spelled .program start
  · exact readOptions_of_spelled spelled .run start

theorem Settings.options_eq (s : Settings) : s.options = { fault := s.fault } := by
  obtain ⟨verbose, fault⟩ := s
  cases fault <;> rfl

theorem perform_on_writable {env : Environment} (writable : env.stdout = .writable) (s : Settings) :
    (perform env s).code = 0 ∧
      (perform env s).stdout = lines [Program.firstLine s.options, Program.completionLine] := by
  have ⟨⟨r, ok⟩, calls⟩ := Program.run_on_writable s.options
  unfold perform
  rw [writable]
  simp only [ok, calls, true_and]
  rfl

-- Whatever order and spelling the options have and whatever is logged, the line for the sum or for
-- the fault is written, and the last line.
theorem invoke_of_spelled (env : Environment) (writable : env.stdout = .writable)
    (arguments : List String) (s : Settings) (spelled : Spelled {} arguments s) :
    read arguments = .ok s ∧ read ("run" :: arguments) = .ok s ∧
      invoke env ("run" :: arguments) = invoke env arguments ∧
      (invoke env arguments).code = 0 ∧
      (invoke env arguments).stdout =
        lines [s.fault.elim "Sum: 15" ("Exception: " ++ ·), "Finally block executed"] := by
  have ⟨read_eq, read_run_eq⟩ := read_of_spelled spelled
  have invoke_eq : invoke env arguments = perform env s := by rw [invoke, read_eq]
  have invoke_run_eq : invoke env ("run" :: arguments) = perform env s := by
    rw [invoke, read_run_eq]
  have ⟨code_eq, stdout_eq⟩ := perform_on_writable writable s
  rw [invoke_eq, invoke_run_eq]
  refine ⟨read_eq, read_run_eq, rfl, code_eq, ?_⟩
  rw [stdout_eq, s.options_eq]
  cases s.fault <;> rfl

theorem invoke_of_spelled_subcommand :
    let env : Environment := { directives := some "off" }
    let arguments := ["--inject-fault", "run", "--verbose"]
    let s : Settings := { verbose := true, fault := some "run" }
    env.stdout = .writable ∧ Spelled {} arguments s ∧
      invoke env ("run" :: arguments) = invoke env arguments ∧ (invoke env arguments).code = 0 ∧
      (invoke env arguments).stdout = "Exception: run\nFinally block executed\n" := by
  intro env arguments s
  have spelled : Spelled {} arguments s := .apart "run" rfl (by decide) (.long rfl .nil)
  have ⟨_, _, same, code_eq, stdout_eq⟩ := invoke_of_spelled env rfl arguments s spelled
  exact ⟨rfl, spelled, same, code_eq, stdout_eq⟩

end GuardedSum.CommandLine
