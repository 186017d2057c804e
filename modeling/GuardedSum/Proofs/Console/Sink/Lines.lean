import GuardedSum.Proofs.Console.Sink.Room

namespace GuardedSum.Console.Sink

theorem calls_request (text : String) (s : Sink) :
    (console.request text s).calls = (line text s).record :=
  List.append_nil _

-- What a line comes to behind some bytes that a sink was offered before, if its flush is given.
structure LineBehind (front : List UInt8) (room : Option Nat) (answer : Outcome IoError Unit)
    (text : String) (e : Exit (Request Call) Sink IoError Unit) : Prop where
  accepted : accepted e.calls = within (beside room front) (lineBytes text)
  outcome : e.outcome = if Fits room (front ++ lineBytes text) then answer else .error .writeZero
  flushed : flushed e.calls = if Fits room (front ++ lineBytes text) then [e.outcome] else []

namespace LineBehind

variable {front bs : List UInt8} {room : Option Nat} {answer answer' : Outcome IoError Unit}
variable {text : String} {e : Exit (Request Call) Sink IoError Unit}

theorem behind (h : LineBehind front (beside room bs) answer text e) :
    LineBehind (bs ++ front) room answer text e := by
  have fits_iff : Fits (beside room bs) (front ++ lineBytes text) ↔
      Fits room (bs ++ front ++ lineBytes text) := by
    rw [List.append_assoc]
    exact fits_beside (List.append_ne_nil_of_right_ne_nil front (lineBytes_ne_nil text))
  constructor
  case accepted => rw [beside_append, h.accepted]
  case outcome => simp only [h.outcome, fits_iff]
  case flushed => simp only [h.flushed, fits_iff]

theorem congr_answer (h : LineBehind front room answer text e)
    (same : Fits room (front ++ lineBytes text) → answer = answer') :
    LineBehind front room answer' text e where
  accepted := h.accepted
  outcome := h.outcome.trans (ite_congr rfl same fun _ => rfl)
  flushed := h.flushed

end LineBehind

theorem request_behind {s : Sink} (steady : s.Steady) (text : String) :
    LineBehind [] s.room (s.flushes.headD (.ok ())) text (console.request text s) := by
  have filled := line_filled text steady
  have whole_iff : accepted (line text s).record = lineBytes text ↔ Fits s.room (lineBytes text) := by
    rw [filled.accepted]
    exact within_eq_self_iff
  constructor
  case accepted =>
    rw [calls_request, beside_nil]
    exact filled.accepted
  case outcome => exact filled.outcome
  case flushed =>
    rw [calls_request, flushed_line, List.nil_append]
    simp only [whole_iff]
    rfl

structure EachBehind (texts : List String) (s : Sink)
    (exits : List (Exit (Request Call) Sink IoError Unit)) : Prop where
  accepted : accepted (exits.flatMap Exit.calls) = within s.room (texts.flatMap lineBytes)
  length : exits.length = texts.length
  behind : ∀ i text e, texts[i]? = some text → exits[i]? = some e →
    LineBehind ((texts.take i).flatMap lineBytes) s.room (s.flushes.getD i (.ok ())) text e

theorem EachBehind.cons {s : Sink} (steady : s.Steady) {text : String} {texts : List String}
    {exits : List (Exit (Request Call) Sink IoError Unit)}
    (rest : EachBehind texts (line text s).state exits) :
    EachBehind (text :: texts) s (console.request text s :: exits) := by
  have filled := line_filled text steady
  have first := request_behind steady text
  constructor
  case accepted =>
    rw [List.flatMap_cons, accepted_append, rest.accepted, first.accepted, filled.room,
      List.flatMap_cons, within_append, beside_nil]
  case length => exact congrArg (· + 1) rest.length
  case behind =>
    intro i text' e text_eq exit_eq
    cases i with
    | zero =>
      obtain rfl : text = text' := Option.some.inj text_eq
      obtain rfl : console.request text s = e := Option.some.inj exit_eq
      refine first.congr_answer fun _ => ?_
      cases s.flushes <;> rfl
    | succ i =>
      have behind := rest.behind i text' e text_eq exit_eq
      rw [filled.room] at behind
      -- If this line fits then so did the first one, which took a step of the script.
      refine behind.behind.congr_answer fun fits => ?_
      rw [List.append_assoc, fits_append] at fits
      rw [filled.flushes, if_pos fits.1]
      cases s.flushes <;> rfl

theorem requestEach_behind {s : Sink} (steady : s.Steady) (unaborted : ∀ o ∈ s.flushes, o ≠ .abort)
    (texts : List String) : EachBehind texts s (console.requestEach s texts) := by
  induction texts generalizing s with
  | nil => exact ⟨within_nil.symm, rfl, nofun⟩
  | cons text texts ih =>
    have ends : (console.request text s).outcome ≠ .abort := by
      rw [(request_behind steady text).outcome]
      split
      case isTrue => exact forall_headD unaborted nofun
      case isFalse => exact nofun
    have rest := ih (line_filled text steady).steady fun o mem =>
      unaborted o (mem_flushes_of_line mem)
    have exits_eq : console.requestEach s (text :: texts) =
        console.request text s :: console.requestEach (line text s).state texts :=
      Action.runEach_of_ne_abort ends
    rw [exits_eq]
    exact rest.cons steady

-- The bytes of a list of lines are cut off where the room of the sink ends. The lines that would
-- go beyond it fail and are not flushed; the others end as their flushes do.
theorem requestEach_on_full_disk (s : Sink) (steady : s.Steady)
    (unaborted : ∀ o ∈ s.flushes, o ≠ .abort) (texts : List String) :
    let exits := console.requestEach s texts
    let total (i : Nat) := (texts.take i).flatMap lineBytes
    accepted (exits.flatMap Exit.calls) = within s.room (texts.flatMap lineBytes) ∧
      exits.length = texts.length ∧
      ∀ i text e, texts[i]? = some text → exits[i]? = some e →
        accepted e.calls = within (beside s.room (total i)) (lineBytes text) ∧
          (Fits s.room (total (i + 1)) →
            e.outcome = s.flushes.getD i (.ok ()) ∧ flushed e.calls = [e.outcome]) ∧
          (¬Fits s.room (total (i + 1)) →
            e.outcome = .error .writeZero ∧ flushed e.calls = []) := by
  intro exits total
  have each := requestEach_behind steady unaborted texts
  refine ⟨each.accepted, each.length, fun i text e text_eq exit_eq => ?_⟩
  have behind := each.behind i text e text_eq exit_eq
  have total_eq : total (i + 1) = total i ++ lineBytes text := by
    simp [total, List.take_add_one, text_eq]
  rw [total_eq]
  refine ⟨behind.accepted, fun fits => ⟨?_, ?_⟩, fun not_fits => ⟨?_, ?_⟩⟩
  · rw [behind.outcome, if_pos fits]
  · rw [behind.flushed, if_pos fits]
  · rw [behind.outcome, if_neg not_fits]
  · rw [behind.flushed, if_neg not_fits]

theorem requestEach_on_full_disk_cut :
    let cause : IoError := .ofKind .brokenPipe
    let s : Sink :=
      { writes := [.accept (some 3), .fail (.ofErrno .interruptedCall)]
        flushes := [.error cause, .panic "late"]
        room := some 10 }
    let exits := console.requestEach s ["first", "", "third"]
    s.Steady ∧ (∀ o ∈ s.flushes, o ≠ .abort) ∧
      accepted (exits.flatMap Exit.calls) = utf8 "first\n\nthi" ∧
      (∃ e, exits[0]? = some e ∧ e.outcome = .error cause) ∧
      (∃ e, exits[1]? = some e ∧ e.outcome = .panic "late") ∧
      ∃ e, exits[2]? = some e ∧ e.outcome = .error .writeZero ∧ accepted e.calls = utf8 "thi" ∧
        flushed e.calls = [] := by
  intro cause s exits
  have steady : s.Steady := by
    intro w mem
    simp only [s, List.mem_cons, List.not_mem_nil, or_false] at mem
    obtain rfl | rfl := mem
    · exact Nat.zero_lt_succ 2
    · rfl
  have unaborted : ∀ o ∈ s.flushes, o ≠ .abort := by simp [s]
  have ⟨bytes, length, each⟩ :=
    requestEach_on_full_disk s steady unaborted ["first", "", "third"]
  have exits_length : exits.length = 3 := length
  have first : exits[0]? = some exits[0] := List.getElem?_eq_getElem (by omega)
  have second : exits[1]? = some exits[1] := List.getElem?_eq_getElem (by omega)
  have third : exits[2]? = some exits[2] := List.getElem?_eq_getElem (by omega)
  have ⟨_, first_fits, _⟩ := each 0 "first" _ rfl first
  have ⟨_, second_fits, _⟩ := each 1 "" _ rfl second
  have ⟨third_bytes, _, third_cut⟩ := each 2 "third" _ rfl third
  have ⟨first_outcome, _⟩ := first_fits (by unfold s; decide +kernel)
  have ⟨second_outcome, _⟩ := second_fits (by unfold s; decide +kernel)
  have ⟨third_outcome, unflushed⟩ := third_cut (by unfold s; decide +kernel)
  have cut : within s.room (["first", "", "third"].flatMap lineBytes) = utf8 "first\n\nthi" := by
    unfold s
    decide +kernel
  have third_cut_eq :
      within (beside s.room (["first", ""].flatMap lineBytes)) (lineBytes "third") = utf8 "thi" := by
    unfold s
    decide +kernel
  refine ⟨steady, unaborted, bytes.trans cut, ⟨_, first, first_outcome⟩,
    ⟨_, second, second_outcome⟩, _, third, third_outcome, ?_, unflushed⟩
  exact third_bytes.trans third_cut_eq

end GuardedSum.Console.Sink
