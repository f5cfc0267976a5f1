/- Commands on a connection that is read through a buffer. They print the lines, use the line and
   end as on the bare connection, whatever is in the buffer. -/

import Oscilloscope.Proofs.CommandLine.Access
import Oscilloscope.Proofs.Scope.Buffering

set_option autoImplicit false
set_option relaxedAutoImplicit false

namespace Oscilloscope

variable {σ : Type} [Transport σ]

private theorem Handle.connect_mirrors (tuning : Tuning) (line : Line (Buffered σ)) :
    Mirrors Line.bare (connect tuning) (connect tuning) line := by
  unfold connect
  refine (Line.mirrors_of_conclude rfl rfl).bind fun _ _ => ?_
  refine (Exchange.attempt_mirrors (Line.mirrors_of_conclude rfl rfl)).bind fun claiming _ => ?_
  cases claiming with
  | ok _ => exact .get_bind (.pure _)
  | error fault =>
    exact (Exchange.attempt_mirrors (Line.mirrors_of_conclude rfl rfl)).bind fun _ _ => .throw fault

end Oscilloscope

namespace Oscilloscope.CommandLine

variable {σ α : Type}

def Terminal.bare (t : Terminal (Buffered σ)) : Terminal σ :=
  ⟨t.scope.bare, t.printed⟩

private theorem onScope_mirrors {context : Fault → Failed} {x : Work (Buffered σ) α} {y : Work σ α}
    {t : Terminal (Buffered σ)} (h : Mirrors Scope.bare x y t.scope) :
    Mirrors Terminal.bare (onScope context x) (onScope context y) t := by
  refine ⟨?_, ?_⟩
  · rw [result_onScope, result_onScope, h.result_eq]
    rfl
  · rw [final_onScope, final_onScope]
    exact congrArg (Terminal.mk · t.printed) h.seen_final

private theorem printingEvents_mirrors {dump : Bool} {x : Work (Buffered σ) α} {y : Work σ α}
    {t : Terminal (Buffered σ)} (h : Mirrors Scope.bare x y t.scope) :
    Mirrors Terminal.bare (printingEvents dump x) (printingEvents dump y) t := by
  refine ⟨?_, ?_⟩
  · rw [result_printingEvents, result_printingEvents, h.result_eq]
    rfl
  · rw [final_printingEvents, final_printingEvents]
    have same := congrArg
      (fun scope : Scope σ => Terminal.mk scope (t.printed ++ eventsLines dump 0 scope.events))
      h.seen_final
    exact same

private theorem print_mirrors (line : String) (t : Terminal (Buffered σ)) :
    Mirrors Terminal.bare (print line) (print line) t :=
  .modify rfl

private theorem ofExcept_mirrors (r : Except Fault α) (t : Terminal (Buffered σ)) :
    Mirrors Terminal.bare (ofExcept r) (ofExcept r) t := by
  cases r with
  | ok a => exact .pure a
  | error fault => exact .throw _

private theorem findKey_mirrors (name : String) (t : Terminal (Buffered σ)) :
    Mirrors Terminal.bare (findKey name) (findKey name) t := by
  unfold findKey
  split
  · exact .pure _
  · exact .throw _

private theorem showFound_mirrors (found : List Found) (t : Terminal (Buffered σ)) :
    Mirrors Terminal.bare (showFound found) (showFound found) t := by
  have listed (t : Terminal (Buffered σ)) : Mirrors Terminal.bare
      (found.forM fun f => print f.line) (found.forM fun f => print f.line) t := by
    induction found generalizing t with
    | nil => exact .pure _
    | cons f rest ih => exact (print_mirrors f.line t).bind fun _ _ => ih _
  unfold showFound
  split
  · exact (print_mirrors _ t).bind fun _ _ => listed _
  · exact listed t

variable [Transport σ] (connection : Option String) (t : Terminal (Buffered σ))

private theorem openScope_mirrors :
    Mirrors Terminal.bare (openScope connection) (openScope connection) t :=
  Mirrors.bind (.modify rfl) fun _ _ =>
    onScope_mirrors (Scope.onLine_mirrors (Handle.connect_mirrors _ _))

private theorem closeScope_mirrors : Mirrors Terminal.bare closeScope closeScope t :=
  onScope_mirrors (Scope.onLine_mirrors (Line.mirrors_of_conclude rfl rfl))

private theorem showInfo_mirrors :
    Mirrors Terminal.bare (showInfo connection) (showInfo connection) t := by
  unfold showInfo
  refine (openScope_mirrors connection t).bind fun handle _ => ?_
  refine (onScope_mirrors (Scope.echo_mirrors handle _ _)).bind fun _ _ => ?_
  refine (onScope_mirrors (Scope.onBank_mirrors (Bank.refresh_mirrors _ _))).bind fun s _ => ?_
  refine (print_mirrors _ _).bind fun _ _ => (print_mirrors _ _).bind fun _ _ => ?_
  refine (ofExcept_mirrors _ _).bind fun _ _ => (print_mirrors _ _).bind fun _ _ => ?_
  refine (ofExcept_mirrors _ _).bind fun _ _ => (print_mirrors _ _).bind fun _ _ => ?_
  refine (ofExcept_mirrors _ _).bind fun _ _ => (ofExcept_mirrors _ _).bind fun _ _ => ?_
  refine (print_mirrors _ _).bind fun _ _ => ?_
  refine (ofExcept_mirrors _ _).bind fun _ _ => (print_mirrors _ _).bind fun _ _ => ?_
  refine (ofExcept_mirrors _ _).bind fun _ _ => (print_mirrors _ _).bind fun _ _ => ?_
  refine (ofExcept_mirrors _ _).bind fun _ _ => (ofExcept_mirrors _ _).bind fun _ _ => ?_
  refine (print_mirrors _ _).bind fun _ _ => ?_
  refine (ofExcept_mirrors _ _).bind fun _ _ => (print_mirrors _ _).bind fun _ _ => ?_
  split
  · refine (ofExcept_mirrors _ _).bind fun _ _ => (print_mirrors _ _).bind fun _ _ => ?_
    exact closeScope_mirrors _
  · exact closeScope_mirrors _

private theorem showValue_mirrors (name : String) (channel : Option Nat) (choices : Bool) :
    Mirrors Terminal.bare (showValue connection name channel choices)
      (showValue connection name channel choices) t := by
  unfold showValue
  refine (findKey_mirrors name t).bind fun key _ => ?_
  refine (openScope_mirrors connection _).bind fun handle _ => ?_
  have shown (t : Terminal (Buffered σ)) (index : Option Nat) : Mirrors Terminal.bare
      (onScope (.reading key) <|
        if choices then Scope.listValues handle key index else Scope.getValue handle key index)
      (onScope (.reading key) <|
        if choices then Scope.listValues handle key index else Scope.getValue handle key index)
      t := by
    refine onScope_mirrors ?_
    split
    · exact Scope.listValues_mirrors handle _ key index
    · exact Scope.getValue_mirrors handle _ key index
  refine (shown _ _).bind fun value _ => (print_mirrors _ _).bind fun _ _ => ?_
  exact closeScope_mirrors _

private theorem changeValue_mirrors (name text : String) (channel : Option Nat) :
    Mirrors Terminal.bare (changeValue connection name text channel)
      (changeValue connection name text channel) t := by
  unfold changeValue
  refine (findKey_mirrors name t).bind fun key _ => ?_
  split
  · exact .throw _
  · refine (openScope_mirrors connection _).bind fun handle _ => ?_
    refine (onScope_mirrors (Scope.setValue_mirrors handle _ key _ _)).bind fun _ _ => ?_
    exact closeScope_mirrors _

private theorem poll_mirrors (handle : Handle) (stopped : Nat → Bool) (ticks : Nat)
    (scope : Scope (Buffered σ)) :
    Mirrors Scope.bare (poll handle stopped ticks) (poll handle stopped ticks) scope := by
  induction ticks generalizing stopped scope with
  | zero => exact .pure _
  | succ ticks ih =>
    refine .get_bind ?_
    dsimp only [Scope.bare]
    split
    · split
      · refine (Scope.requestStop_mirrors scope).bind fun _ _ => ?_
        refine (Scope.tick_mirrors handle _).bind fun phase _ => ?_
        cases phase with
        | idle => exact .pure _
        | capturing | stopping => exact ih _ _
      · refine (Scope.tick_mirrors handle _).bind fun phase _ => ?_
        cases phase with
        | idle => exact .pure _
        | capturing | stopping => exact ih _ _
    · exact .pure _

private theorem acquire_mirrors (frames samples millis : UInt64) (dump : Bool)
    (stopped : Nat → Bool)
    (ticks : Nat) :
    Mirrors Terminal.bare (acquire connection frames samples millis dump stopped ticks)
      (acquire connection frames samples millis dump stopped ticks) t := by
  unfold acquire
  refine (openScope_mirrors connection t).bind fun handle _ => ?_
  refine (printingEvents_mirrors ?_).bind fun _ _ => closeScope_mirrors _
  refine Mirrors.bind (.modify rfl) fun _ _ => ?_
  refine (Scope.onBank_mirrors (Bank.refresh_mirrors _ _)).bind fun _ _ => ?_
  exact (Scope.start_mirrors handle _).bind fun _ _ => poll_mirrors handle stopped ticks _

private theorem Invocation.job_mirrors (i : Invocation) (s : Surroundings) (ticks : Nat) :
    Mirrors Terminal.bare (i.job s ticks) (i.job s ticks) t := by
  unfold job
  split
  · exact showFound_mirrors s.found t
  · exact showInfo_mirrors i.connection t
  · exact showValue_mirrors i.connection t _ _ _
  · exact changeValue_mirrors i.connection t _ _ _
  · exact acquire_mirrors i.connection t _ _ _ _ _ ticks

theorem Invocation.run_eq_buffered (i : Invocation) (s : Surroundings) (script : Script)
    (buffer : Bytes) :
    let start : Terminal (Buffered Script) :=
      { scope := Scope.ofLine { device := ⟨script, buffer⟩ } }
    i.run s script = seenAs Terminal.bare (i.job s (script.reads.length + 2) start) := by
  intro start
  exact (job_mirrors start i s (script.reads.length + 2)).outcome_eq

end Oscilloscope.CommandLine
