import GuardedSum.Error.Chain
import Mathlib.Data.List.Chain

namespace GuardedSum

-- A walk from a message so far and the source that is next, if there is one. It comes past some
-- errors and ends with a message.
inductive Walked : String → Option AnyError → List AnyError → String → Prop
  | stop {text} : Walked text none [] text
  | turn {text e es message} :
    Walked (text ++ ": " ++ e.display) e.source? es message → Walked text (some e) (e :: es) message

theorem Walked.unique {text : String} {s? : Option AnyError} {es es' : List AnyError}
    {message message' : String} (h : Walked text s? es message) (h' : Walked text s? es' message') :
    es = es' ∧ message = message' := by
  induction h generalizing es' with
  | stop =>
    cases h' with
    | stop => exact ⟨rfl, rfl⟩
  | turn _ ih =>
    cases h' with
    | turn h' =>
      have ⟨es_eq, message_eq⟩ := ih h'
      exact ⟨congrArg _ es_eq, message_eq⟩

namespace AnyError

theorem walked_sources (text : String) (e : AnyError) :
    Walked text e.source? e.sources (": ".intercalate (text :: e.sources.map (·.display))) := by
  fun_induction sources e generalizing text with
  | case1 e h =>
    rw [h, List.map_nil, String.intercalate_singleton]
    exact .stop
  | case2 e s h ih =>
    have message_eq (ts : List String) :
        ": ".intercalate (text :: s.display :: ts) =
          ": ".intercalate ((text ++ ": " ++ s.display) :: ts) := by
      rw [String.intercalate_cons_append, String.intercalate_cons_cons]
    rw [h, List.map_cons, message_eq]
    exact .turn (ih _)

theorem isChain_sources (e : AnyError) :
    (e :: e.sources).IsChain fun a b => a.source? = some b := by
  fun_induction sources e with
  | case1 e h => exact .singleton e
  | case2 e s h ih => exact .cons_cons h ih

theorem source?_getLast_sources (e : AnyError) :
    ((e :: e.sources).getLast (List.cons_ne_nil _ _)).source? = none := by
  fun_induction sources e with
  | case1 e h => exact h
  | case2 e s h ih => exact ih

theorem sizeOf_lt_of_mem_sources {e s : AnyError} (h : s ∈ e.sources) : sizeOf s < sizeOf e := by
  fun_induction sources e with
  | case1 e _ => nomatch h
  | case2 e t source_eq ih =>
    have smaller := sizeOf_source?_lt e source_eq
    cases h with
    | head => exact smaller
    | tail _ h => exact Nat.lt_trans (ih h) smaller

theorem nodup_sources (e : AnyError) : (e :: e.sources).Nodup := by
  -- Sources are smaller than the error, so it is none of them.
  have not_mem {e : AnyError} : e ∉ e.sources := fun h => Nat.lt_irrefl _ (sizeOf_lt_of_mem_sources h)
  fun_induction sources e with
  | case1 e h => exact List.pairwise_singleton _ e
  | case2 e s h ih =>
    rw [← sources_of_source?_eq_some h]
    refine List.nodup_cons.mpr ⟨not_mem, ?_⟩
    rwa [sources_of_source?_eq_some h]

theorem sources_congr {e e' : AnyError} (h : e.source? = e'.source?) : e.sources = e'.sources := by
  match hs : e'.source? with
  | none => rw [sources_of_source?_eq_none hs, sources_of_source?_eq_none (h.trans hs)]
  | some s => rw [sources_of_source?_eq_some hs, sources_of_source?_eq_some (h.trans hs)]

-- An error within errors of devices, of which each carries the next.
def wrapped (x : AnyError) : List ErrorKind → AnyError
  | [] => x
  | k :: ks => .io (.custom k (x.wrapped ks))

variable (x : AnyError) (ks : List ErrorKind)

theorem display_wrapped : (x.wrapped ks).display = x.display := by
  induction ks with
  | nil => rfl
  | cons _ _ ih => exact ih

theorem source?_wrapped : (x.wrapped ks).source? = x.source? := by
  induction ks with
  | nil => rfl
  | cons _ _ ih => exact ih

end AnyError

namespace ProgramError

theorem sources_output (e : IoError) : (output e).sources = .io e :: (AnyError.io e).sources :=
  AnyError.sources_of_source?_eq_some rfl

theorem displays_output_wrapped (x : AnyError) (k : ErrorKind) (ks : List ErrorKind) :
    (output (.custom k (x.wrapped ks))).sources.map (·.display) =
      x.display :: x.sources.map (·.display) := by
  have same : (AnyError.io (.custom k (x.wrapped ks))).sources = x.sources :=
    AnyError.sources_congr (x.source?_wrapped (k :: ks))
  rw [sources_output, List.map_cons, same]
  exact congrArg (· :: _) (x.display_wrapped (k :: ks))

-- The walk ends, and comes past every source once, from the outermost on. Errors of devices that
-- carry an error leave no trace in the message, however many there are around it.
theorem message_of_sources :
    (∀ e : ProgramError,
      (∀ es message, Walked e.display e.source? es message ↔ es = e.sources ∧ message = e.message) ∧
        e.message = ": ".intercalate (e.display :: e.sources.map (·.display)) ∧
        (AnyError.program e :: e.sources).IsChain (fun a b => a.source? = some b) ∧
        ((AnyError.program e :: e.sources).getLast (List.cons_ne_nil _ _)).source? = none ∧
        (AnyError.program e :: e.sources).Nodup) ∧
      ∀ (x : AnyError) (k : ErrorKind) (ks : List ErrorKind),
        let e := output (.custom k (x.wrapped ks))
        let displays := x.display :: x.sources.map (·.display)
        e.sources.map (·.display) = displays ∧
          e.message = "failed to write output: " ++ ": ".intercalate displays := by
  refine ⟨fun e => ⟨fun es message => ?walk, rfl, ?chain, ?last, ?once⟩, fun x k ks => ?wrapped⟩
  case walk =>
    have walked : Walked e.display e.source? e.sources e.message :=
      (AnyError.program e).walked_sources e.display
    constructor
    case mp => exact fun h => h.unique walked
    case mpr =>
      rintro ⟨rfl, rfl⟩
      exact walked
  case chain => exact AnyError.isChain_sources _
  case last => exact AnyError.source?_getLast_sources _
  case once => exact AnyError.nodup_sources _
  case wrapped =>
    intro e displays
    have displays_eq : e.sources.map (·.display) = displays := displays_output_wrapped x k ks
    refine ⟨displays_eq, ?_⟩
    rw [message, displays_eq, String.intercalate_cons_cons]
    rfl

end ProgramError

end GuardedSum
