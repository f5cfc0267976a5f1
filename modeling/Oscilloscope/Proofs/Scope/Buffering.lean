/- Whole runs on a connection that is read through a buffer. Each call comes to what it comes to on
   the bare connection and leaves there what it leaves, so that no run depends on what earlier
   reads have left in the buffer. -/

import Oscilloscope.Proofs.Scope.Session
import Oscilloscope.Proofs.Wire.Buffering

set_option autoImplicit false
set_option relaxedAutoImplicit false

namespace Oscilloscope

variable {σ α : Type}

def Bank.bare (bank : Bank (Buffered σ)) : Bank σ :=
  ⟨bank.line.bare, bank.published⟩

def Scope.bare (scope : Scope (Buffered σ)) : Scope σ :=
  ⟨scope.bank.bare, scope.phase, scope.baseline, scope.limits, scope.events, scope.ticker⟩

private theorem Bank.onLine_mirrors {x : Exchange (Buffered σ) α} {y : Exchange σ α}
    {bank : Bank (Buffered σ)} (h : Mirrors Line.bare x y bank.line) :
    Mirrors bare (onLine x) (onLine y) bank := by
  refine ⟨?_, ?_⟩
  · rw [result_onLine, result_onLine, h.result_eq]
    rfl
  · rw [final_onLine, final_onLine]
    exact congrArg (Bank.mk · bank.published) h.seen_final

theorem Scope.onBank_mirrors {x : BankWork (Buffered σ) α} {y : BankWork σ α}
    {scope : Scope (Buffered σ)} (h : Mirrors Bank.bare x y scope.bank) :
    Mirrors bare (onBank x) (onBank y) scope := by
  refine ⟨?_, ?_⟩
  · rw [result_onBank, result_onBank, h.result_eq]
    rfl
  · rw [final_onBank, final_onBank]
    exact congrArg (fun bank => { scope.bare with bank }) h.seen_final

private theorem Scope.ofExcept_mirrors (r : Except Fault α) (scope : Scope (Buffered σ)) :
    Mirrors bare (ofExcept r) (ofExcept r) scope := by
  cases r with
  | ok a => exact .pure a
  | error fault => exact .throw fault

private theorem Bank.publish_mirrors (s : Snapshot) (bank : Bank (Buffered σ)) :
    Mirrors bare (publish s) (publish s) bank :=
  .modify rfl

namespace Scope

variable {scope : Scope (Buffered σ)}

theorem onLine_mirrors {x : Exchange (Buffered σ) α} {y : Exchange σ α}
    (h : Mirrors Line.bare x y scope.bank.line) : Mirrors bare (onLine x) (onLine y) scope :=
  onBank_mirrors (Bank.onLine_mirrors h)

private theorem emit_mirrors (events : List Event) (scope : Scope (Buffered σ)) :
    Mirrors bare (emit events) (emit events) scope :=
  .modify rfl

theorem requestStop_mirrors (scope : Scope (Buffered σ)) :
    Mirrors bare requestStop requestStop scope := by
  refine .modify ?_
  show _ = if scope.phase = .capturing then _ else _
  split <;> rfl

private theorem tellChange_mirrors (fresh : Snapshot) (scope : Scope (Buffered σ)) :
    Mirrors bare (tellChange fresh) (tellChange fresh) scope := by
  refine .get_bind ?_
  dsimp only [bare]
  split
  · exact .modify rfl
  · refine Mirrors.bind (.modify rfl) fun _ _ => ?_
    refine (ofExcept_mirrors _ _).bind fun told _ => ?_
    split
    · exact emit_mirrors _ _
    · exact .pure _

private theorem endingOnFault_mirrors {x : Work (Buffered σ) α} {y : Work σ α}
    (h : Mirrors bare x y scope) : Mirrors bare (endingOnFault x) (endingOnFault y) scope := by
  refine ⟨by rw [result_endingOnFault, result_endingOnFault, h.result_eq], ?_⟩
  cases outcome : result y scope.bare with
  | ok a =>
    rw [final_endingOnFault_of_ok outcome, final_endingOnFault_of_ok (h.result_eq.trans outcome)]
    exact h.seen_final
  | error fault =>
    rw [final_endingOnFault_of_error outcome,
      final_endingOnFault_of_error (h.result_eq.trans outcome)]
    exact congrArg finished h.seen_final

end Scope

variable [Transport σ]

namespace Bank

variable (tuning : Tuning) (bank : Bank (Buffered σ))

theorem refresh_mirrors : Mirrors bare (refresh tuning) (refresh tuning) bank :=
  (onLine_mirrors (readSnapshot_mirrors tuning bank.line)).bind fun s _ =>
    (publish_mirrors s _).bind fun _ _ => .pure _

private theorem revise_mirrors (change : Snapshot → Except Fault Snapshot) :
    Mirrors bare (revise tuning change) (revise tuning change) bank := by
  unfold revise
  refine (refresh_mirrors tuning bank).bind fun current _ => ?_
  split
  · exact .throw _
  · exact (onLine_mirrors (writeSnapshot_mirrors tuning _ _)).bind fun _ _ => .pure _

end Bank

namespace Scope

variable (handle : Handle) (scope : Scope (Buffered σ))

private theorem snapshot_mirrors : Mirrors bare (snapshot handle) (snapshot handle) scope := by
  refine .get_bind ?_
  dsimp only [bare]
  split
  · exact .pure _
  · exact onBank_mirrors (Bank.refresh_mirrors handle.tuning scope.bank)

private theorem model_mirrors : Mirrors bare (model handle) (model handle) scope :=
  (snapshot_mirrors handle scope).bind fun _ _ => .pure _

private theorem channel_mirrors (index : Nat) :
    Mirrors bare (channel handle index) (channel handle index) scope := by
  refine (snapshot_mirrors handle scope).bind fun s _ => ?_
  split
  · exact ofExcept_mirrors _ _
  · exact .throw _

theorem echo_mirrors (bytes : Bytes) :
    Mirrors bare (echo handle bytes) (echo handle bytes) scope :=
  (onLine_mirrors (Link.request_mirrors handle.tuning _ _ _ _)).bind fun _ _ => .pure _

theorem getValue_mirrors (key : Key) (index : Option Nat) :
    Mirrors bare (getValue handle key index) (getValue handle key index) scope := by
  refine (ofExcept_mirrors _ _).bind fun x _ => ?_
  split
  · split
    · exact .pure _
    · exact .throw _
  · exact .get_bind (.pure _)
  · exact .pure _
  · exact (snapshot_mirrors handle _).bind fun _ _ => ofExcept_mirrors _ _

theorem setValue_mirrors (key : Key) (index : Option Nat) (value : Value) :
    Mirrors bare (setValue handle key index value) (setValue handle key index value) scope := by
  refine (ofExcept_mirrors _ _).bind fun x _ => ?_
  split
  · refine .checked ?_
    split
    · exact .modify rfl
    · exact .throw _
  · exact .checked ((onBank_mirrors (Bank.revise_mirrors handle.tuning _ _)).bind
      fun _ _ => .pure _)

theorem listValues_mirrors (key : Key) (index : Option Nat) :
    Mirrors bare (listValues handle key index) (listValues handle key index) scope := by
  refine (ofExcept_mirrors _ _).bind fun x _ => ?_
  split
  · exact .checked (.pure _)
  · exact .checked ((snapshot_mirrors handle _).bind fun _ _ => ofExcept_mirrors _ _)

theorem start_mirrors : Mirrors bare (start handle) (start handle) scope :=
  .get_bind (.checked (.modify rfl))

private theorem readFrame_mirrors (fresh : Snapshot) (c : ChannelId) :
    Mirrors bare (readFrame handle fresh c) (readFrame handle fresh c) scope := by
  unfold readFrame
  split
  · refine (ofExcept_mirrors _ _).bind fun channel _ => ?_
    refine (onLine_mirrors (askSamples_mirrors handle.tuning _ c)).bind fun ready _ => ?_
    split
    · refine (onLine_mirrors (Stream.receiving_mirrors handle.tuning _ c 0)).bind fun stream _ => ?_
      exact (emit_mirrors _ _).bind fun _ _ => (ofExcept_mirrors _ _).bind fun _ _ => .modify rfl
    · exact .pure _
  · exact .pure _

private theorem capture_mirrors : Mirrors bare (capture handle) (capture handle) scope := by
  unfold capture
  refine (onLine_mirrors (Bank.readSnapshot_mirrors handle.tuning _)).bind fun fresh _ => ?_
  refine (tellChange_mirrors fresh _).bind fun _ _ => ?_
  refine (onBank_mirrors (Bank.publish_mirrors fresh _)).bind fun _ _ => ?_
  refine (readFrame_mirrors handle _ fresh .ch1).bind fun _ _ => ?_
  refine (readFrame_mirrors handle _ fresh .ch2).bind fun _ _ => ?_
  generalize final (readFrame (σ := Buffered σ) handle fresh .ch2) _ = last
  refine .get_bind ?_
  show Mirrors bare (if last.limits.exceeded last.now = true then _ else _)
    (if last.limits.exceeded last.now = true then _ else _) last
  split
  · exact requestStop_mirrors last
  · exact .pure _

theorem tick_mirrors : Mirrors bare (tick handle) (tick handle) scope := by
  refine .get_bind ?_
  dsimp only [bare]
  split
  · exact .pure _
  · exact Mirrors.bind (.modify rfl) fun _ _ => .pure _
  · exact (endingOnFault_mirrors (capture_mirrors handle scope)).bind fun _ _ => .get_bind (.pure _)

end Scope

namespace Call

variable (handle : Handle)

private theorem perform_mirrors (call : Call) (scope : Scope (Buffered σ)) :
    Mirrors Scope.bare (call.perform handle) (call.perform handle) scope := by
  cases call with
  | start => exact (Scope.start_mirrors handle scope).bind fun _ _ => .pure _
  | requestStop => exact (Scope.requestStop_mirrors scope).bind fun _ _ => .pure _
  | tick => exact (Scope.tick_mirrors handle scope).bind fun _ _ => .pure _
  | refresh =>
    exact (Scope.onBank_mirrors (Bank.refresh_mirrors handle.tuning _)).bind fun _ _ => .pure _
  | shadow => exact .get_bind (.pure _)
  | model => exact (Scope.model_mirrors handle scope).bind fun _ _ => .pure _
  | channel index => exact (Scope.channel_mirrors handle scope index).bind fun _ _ => .pure _
  | echo bytes => exact (Scope.echo_mirrors handle scope bytes).bind fun _ _ => .pure _
  | getValue key index =>
    exact (Scope.getValue_mirrors handle scope key index).bind fun _ _ => .pure _
  | setValue key index value =>
    exact (Scope.setValue_mirrors handle scope key index value).bind fun _ _ => .pure _
  | listValues key index =>
    exact (Scope.listValues_mirrors handle scope key index).bind fun _ _ => .pure _

private theorem bare_after (call : Call) (scope : Scope (Buffered σ)) :
    (call.after handle scope).bare = call.after handle scope.bare := by
  rw [after_eq_final, after_eq_final]
  exact (perform_mirrors handle call scope).seen_final

theorem run_mirrors (calls : List Call) (scope : Scope (Buffered σ)) :
    (run handle calls scope).bare = run handle calls scope.bare ∧
      ∀ next : Call, result (next.perform handle) (run handle calls scope) =
        result (next.perform handle) (run handle calls scope.bare) := by
  have whole : (run handle calls scope).bare = run handle calls scope.bare := by
    induction calls generalizing scope with
    | nil => rfl
    | cons call rest ih =>
      show (run handle rest (call.after handle scope)).bare =
        run handle rest (call.after handle scope.bare)
      rw [ih, bare_after]
  refine ⟨whole, fun next => ?_⟩
  rw [← whole]
  exact (perform_mirrors handle next _).result_eq

end Call

end Oscilloscope
