import HostConfig.Lib.Interleaving
import HostConfig.Service.Metrics

/-!
# `Service.Dispatch` — concurrent requests through the middleware

Every request runs its own `dispatch` coroutine; they share the metrics. A step of a coroutine is one
operation on the metrics, or what its one `await` ends in: a response, an exception or a cancellation. Any
coroutine can take the next step, which is more than the event loop allows (it switches at an `await` only).

`dispatch_accounting` says what the metrics hold at every moment of every interleaving.
-/

namespace HostConfig
namespace Service

/-! ## A coroutine -/

/-- Where a coroutine stands. -/
inductive Phase
  /-- `ACTIVE_REQUESTS.inc()` is ahead. -/
  | received
  /-- In `await call_next(request)`. -/
  | awaiting
  /-- In the `else` block. -/
  | completed
  /-- In the `except` block. -/
  | failed
  /-- The `finally` block is ahead. -/
  | leaving
  /-- `ACTIVE_REQUESTS.dec()` is done; the route template is known from here on. -/
  | decremented (template : String)
  /-- `REQUESTS_TOTAL` is done. -/
  | counted (template : String)
  /-- `REQUEST_DURATION` is done: the `finally` block has run. -/
  | finished (template : String)
deriving DecidableEq

/-- The locals of `dispatch`; of the response only its status is read. -/
structure Coroutine where
  method : String
  phase : Phase
  statusCode : Nat
  response : Option Nat
deriving DecidableEq

/-- What a coroutine does next. -/
inductive Action
  | enter
  | respond (status : Nat)
  | raise
  | cancel
  /-- The end of the `except` block: the exception goes on. -/
  | reraise
  /-- The end of the `else` block, by its `return` or by an exception in it. -/
  | leave
  /-- `route` is the path of the route in the request's scope, where routing has set one. -/
  | dec (route : Option String)
  | count
  | observe

def unmatched : String := "<unmatched>"

/-- `_route_template` -/
def routeTemplate (route : Option String) : String := route.getD unmatched

/-- A request comes in. -/
def Coroutine.start (method : String) : Coroutine := ⟨method, .received, 500, none⟩

/-- `RequestContextMiddleware.dispatch`, one step. -/
def move (a : Action) (m : Metrics) (c : Coroutine) : Option (Metrics × Coroutine) :=
  match a, c.phase with
  | .enter,          .received     => some (m.incActive, { c with phase := .awaiting, statusCode := 500 })
  | .respond status, .awaiting     =>
    some (m, { c with phase := .completed, response := some status, statusCode := status })
  | .raise,          .awaiting     => some (m, { c with phase := .failed })
  -- a cancellation is no `Exception`: it goes straight to `finally`
  | .cancel,         .awaiting     => some (m, { c with phase := .leaving })
  | .reraise,        .failed       => some (m, { c with phase := .leaving })
  | .leave,          .completed    => some (m, { c with phase := .leaving })
  | .dec route,      .leaving      =>
    some (m.decActive, { c with phase := .decremented (routeTemplate route) })
  | .count,          .decremented template =>
      some (m.countRequest ⟨c.method, template, toString c.statusCode⟩, { c with phase := .counted template })
  | .observe,        .counted template =>
      some (m.observeRequest ⟨c.method, template⟩, { c with phase := .finished template })
  | _,               _             => none

/-- The service: the metrics and the requests that have come in. -/
abbrev ServiceState := Interleaving.System Metrics Coroutine

/-- `spawn method` is a request with this method coming in. -/
abbrev ServiceEvent := Interleaving.Event Action String

abbrev serviceStep : ServiceState → ServiceEvent → Option ServiceState :=
  Interleaving.step Coroutine.start move

/-- A fresh process, before the first request. -/
def idle : ServiceState := ⟨Metrics.zero, []⟩

/-- The states the service can be in. -/
def Reachable (t : ServiceState) : Prop := ∃ es, Runs.run serviceStep idle es = some t

/-! ## What the metrics should hold -/

namespace Coroutine

/-- Entered, the `finally` block not yet run. -/
def inFlight (c : Coroutine) : Bool :=
  match c.phase with
  | .awaiting | .completed | .failed | .leaving => true
  | _ => false

/-- In the middle of the `finally` block, between its operations on the metrics. -/
def inFinally (c : Coroutine) : Bool :=
  match c.phase with
  | .decremented _ | .counted _ => true
  | _ => false

/-- The `finally` block has run. -/
def finallyRun (c : Coroutine) : Bool :=
  match c.phase with
  | .finished _ => true
  | _ => false

/-- Under which labels the request is counted, once it is: with the status of its response, or
    500 if it has none. -/
def requestLabels (c : Coroutine) : Option RequestLabels :=
  match c.phase with
  | .counted template | .finished template => some ⟨c.method, template, toString (c.response.getD 500)⟩
  | _ => none

/-- Under which labels its duration is observed, once it is. -/
def durationLabels (c : Coroutine) : Option DurationLabels :=
  match c.phase with
  | .finished template => some ⟨c.method, template⟩
  | _ => none

/-- As `requestLabels`, with the local `status_code` the code uses. -/
def emittedLabels (c : Coroutine) : Option RequestLabels :=
  match c.phase with
  | .counted template | .finished template => some ⟨c.method, template, toString c.statusCode⟩
  | _ => none

/-- The local `status_code` is the status of the response, and 500 until there is one. -/
def Honest (c : Coroutine) : Prop :=
  c.statusCode = c.response.getD 500 ∧ (c.phase = .received → c.response = none)

end Coroutine

/-- The service is between two `finally` blocks, as at every `await`. -/
def Settled (t : ServiceState) : Prop := ∀ c ∈ t.procs, c.inFinally = false

/-- **What the metrics hold.** -/
structure Accounts (t : ServiceState) : Prop where
  active : t.shared.activeRequests = t.procs.countP Coroutine.inFlight
  nonneg : 0 ≤ t.shared.activeRequests
  none_inFlight : (∀ c ∈ t.procs, c.inFlight = false) → t.shared.activeRequests = 0
  /-- Each request is counted once, under its labels. -/
  requests : ∀ labels, Counter.get t.shared.requestsTotal labels =
    t.procs.countP fun c => c.requestLabels = some labels
  durations : ∀ labels, Counter.get t.shared.requestDuration labels =
    t.procs.countP fun c => c.durationLabels = some labels
  requests_total : Counter.total t.shared.requestsTotal = t.procs.countP (·.requestLabels.isSome)
  durations_total : Counter.total t.shared.requestDuration = t.procs.countP Coroutine.finallyRun
  /-- Between two `finally` blocks both totals are the number of requests whose `finally` block has run. -/
  settled : Settled t → Counter.total t.shared.requestsTotal = t.procs.countP Coroutine.finallyRun

/-! ## One step -/

section

variable {a : Action} {m m' : Metrics} {c c' : Coroutine}

/-- **What one step can do.** -/
theorem move_cases (h : move a m c = some (m', c')) :
    (c.phase = .received ∧ m' = m.incActive ∧ c' = { c with phase := .awaiting, statusCode := 500 }) ∨
    (∃ status, a = .respond status ∧ c.phase = .awaiting ∧ m' = m ∧
      c' = { c with phase := .completed, response := some status, statusCode := status }) ∨
    (∃ phase, c.inFlight = true ∧ m' = m ∧ c' = { c with phase := phase } ∧ c'.inFlight = true) ∨
    (∃ route, a = .dec route ∧ c.phase = .leaving ∧ m' = m.decActive ∧
      c' = { c with phase := .decremented (routeTemplate route) }) ∨
    (∃ template, c.phase = .decremented template ∧ c' = { c with phase := .counted template } ∧
      m' = m.countRequest ⟨c.method, template, toString c.statusCode⟩) ∨
    (∃ template, c.phase = .counted template ∧ c' = { c with phase := .finished template } ∧
      m' = m.observeRequest ⟨c.method, template⟩) := by
  obtain ⟨method, phase, statusCode, response⟩ := c
  unfold move at h
  cases a <;> cases phase <;> simp only [reduceCtorEq, Option.some.injEq, Prod.mk.injEq] at h <;>
    obtain ⟨rfl, rfl⟩ := h <;> simp [Coroutine.inFlight]

theorem honest_start (method : String) : (Coroutine.start method).Honest := ⟨rfl, fun _ => rfl⟩

theorem honest_move (h : move a m c = some (m', c')) (hc : c.Honest) : c'.Honest := by
  obtain ⟨hstatus, hreceived⟩ := hc
  rcases move_cases h with ⟨hphase, -, rfl⟩ | ⟨status, -, -, -, rfl⟩ | ⟨phase, hflight, -, rfl, hflight'⟩ |
    ⟨route, -, -, -, rfl⟩ | ⟨template, -, rfl, -⟩ | ⟨template, -, rfl, -⟩
  · refine ⟨?_, fun h => nomatch h⟩
    show 500 = c.response.getD 500
    rw [hreceived hphase]
    rfl
  · exact ⟨rfl, fun h => nomatch h⟩
  · refine ⟨hstatus, fun hphase => ?_⟩
    have hreceived' : phase = .received := hphase
    subst hreceived'
    exact absurd hflight' (by simp [Coroutine.inFlight])
  · exact ⟨hstatus, fun h => nomatch h⟩
  · exact ⟨hstatus, fun h => nomatch h⟩
  · exact ⟨hstatus, fun h => nomatch h⟩

theorem emittedLabels_of_honest (hc : c.Honest) : c.emittedLabels = c.requestLabels := by
  unfold Coroutine.emittedLabels Coroutine.requestLabels
  rw [hc.1]

/-! ## Each metric follows one phase -/

/-- A coroutine in flight is not counted or observed. -/
theorem unlabelled_of_inFlight (hc : c.inFlight = true) :
    c.emittedLabels = none ∧ c.durationLabels = none := by
  obtain ⟨method, phase, statusCode, response⟩ := c
  cases phase <;> simp_all [Coroutine.inFlight, Coroutine.emittedLabels, Coroutine.durationLabels]

theorem active_move (h : move a m c = some (m', c')) :
    m'.activeRequests + c.inFlight.toNat = m.activeRequests + c'.inFlight.toNat := by
  rcases move_cases h with ⟨hphase, rfl, rfl⟩ | ⟨status, -, hphase, rfl, rfl⟩ |
    ⟨phase, hflight, rfl, rfl, hflight'⟩ |
    ⟨route, -, hphase, rfl, rfl⟩ | ⟨template, hphase, rfl, rfl⟩ | ⟨template, hphase, rfl, rfl⟩
  · simp [Coroutine.inFlight, hphase, Metrics.incActive]
  · simp [Coroutine.inFlight, hphase]
  · rw [hflight, hflight']
  · simp [Coroutine.inFlight, hphase, Metrics.decActive]
  · simp [Coroutine.inFlight, hphase, Metrics.countRequest]
  · simp [Coroutine.inFlight, hphase, Metrics.observeRequest]

/-- What every entry of the counter adds to a measure of it, the step that counts adds to the measure. -/
theorem requests_move {measure : List (RequestLabels × Nat) → Int} {p : RequestLabels → Bool}
    (hbump : ∀ counter labels, measure (Counter.bump counter labels) = measure counter + (p labels).toNat)
    (h : move a m c = some (m', c')) :
    measure m'.requestsTotal + (c.emittedLabels.any p).toNat =
      measure m.requestsTotal + (c'.emittedLabels.any p).toNat := by
  rcases move_cases h with ⟨hphase, rfl, rfl⟩ | ⟨status, -, hphase, rfl, rfl⟩ |
    ⟨phase, hflight, rfl, rfl, hflight'⟩ |
    ⟨route, -, hphase, rfl, rfl⟩ | ⟨template, hphase, rfl, rfl⟩ | ⟨template, hphase, rfl, rfl⟩
  · simp [Coroutine.emittedLabels, hphase, Metrics.incActive]
  · simp [Coroutine.emittedLabels, hphase]
  · rw [(unlabelled_of_inFlight hflight).1, (unlabelled_of_inFlight hflight').1]
  · simp [Coroutine.emittedLabels, hphase, Metrics.decActive]
  · simp [Coroutine.emittedLabels, hphase, Metrics.countRequest, hbump]
  · simp [Coroutine.emittedLabels, hphase, Metrics.observeRequest]

theorem durations_move {measure : List (DurationLabels × Nat) → Int} {p : DurationLabels → Bool}
    (hbump : ∀ counter labels, measure (Counter.bump counter labels) = measure counter + (p labels).toNat)
    (h : move a m c = some (m', c')) :
    measure m'.requestDuration + (c.durationLabels.any p).toNat =
      measure m.requestDuration + (c'.durationLabels.any p).toNat := by
  rcases move_cases h with ⟨hphase, rfl, rfl⟩ | ⟨status, -, hphase, rfl, rfl⟩ |
    ⟨phase, hflight, rfl, rfl, hflight'⟩ |
    ⟨route, -, hphase, rfl, rfl⟩ | ⟨template, hphase, rfl, rfl⟩ | ⟨template, hphase, rfl, rfl⟩
  · simp [Coroutine.durationLabels, hphase, Metrics.incActive]
  · simp [Coroutine.durationLabels, hphase]
  · rw [(unlabelled_of_inFlight hflight).2, (unlabelled_of_inFlight hflight').2]
  · simp [Coroutine.durationLabels, hphase, Metrics.decActive]
  · simp [Coroutine.durationLabels, hphase, Metrics.countRequest]
  · simp [Coroutine.durationLabels, hphase, Metrics.observeRequest, hbump]

end

/-! ## Every interleaving -/

/-- A measure that follows a phase counts the coroutines in it, the service starting idle. -/
theorem measure_eq (measure : Metrics → Int) (phase : Coroutine → Bool) (hzero : measure Metrics.zero = 0)
    (hstart : ∀ method, phase (Coroutine.start method) = false)
    (hmove : ∀ a m c m' c', move a m c = some (m', c') →
      measure m' + (phase c).toNat = measure m + (phase c').toNat)
    {t : ServiceState} (h : Reachable t) : measure t.shared = t.procs.countP phase := by
  obtain ⟨es, hrun⟩ := h
  have hbalance := Interleaving.balance measure phase hstart hmove hrun
  have hidle : measure idle.shared = 0 := hzero
  have hnone : idle.procs.countP phase = 0 := rfl
  omega

theorem honest_of_reachable {t : ServiceState} (h : Reachable t) : ∀ c ∈ t.procs, c.Honest := by
  obtain ⟨es, hrun⟩ := h
  have hall : ∀ e ∈ es, (fun _ : ServiceEvent => True) e := fun _ _ => trivial
  refine (Interleaving.preserved (fun _ => True) Coroutine.Honest ?_ ?_ hall trivial ?_ hrun).2
  · intro method _
    exact honest_start method
  · intro i a m c m' c' _ _ hc hmove
    exact ⟨trivial, honest_move hmove hc⟩
  · intro c hc
    exact absurd hc List.not_mem_nil

section

variable {t : ServiceState}

theorem active_eq (h : Reachable t) : t.shared.activeRequests = t.procs.countP Coroutine.inFlight :=
  measure_eq Metrics.activeRequests Coroutine.inFlight rfl (fun _ => rfl) (fun _ _ _ _ _ => active_move) h

/-- A measure of the counter that every entry adds `p` to counts the requests counted
    under labels with `p`. -/
theorem requests_eq (measure : List (RequestLabels × Nat) → Int) {p : RequestLabels → Bool}
    (hnil : measure [] = 0)
    (hbump : ∀ counter labels, measure (Counter.bump counter labels) = measure counter + (p labels).toNat)
    (h : Reachable t) : measure t.shared.requestsTotal = t.procs.countP (·.requestLabels.any p) := by
  have hemitted := measure_eq (fun m => measure m.requestsTotal) (fun c => c.emittedLabels.any p)
    hnil (fun _ => rfl) (fun _ _ _ _ _ => requests_move hbump) h
  rw [hemitted, List.countP_congr fun c hc => by rw [emittedLabels_of_honest (honest_of_reachable h c hc)]]

theorem durations_eq (measure : List (DurationLabels × Nat) → Int) {p : DurationLabels → Bool}
    (hnil : measure [] = 0)
    (hbump : ∀ counter labels, measure (Counter.bump counter labels) = measure counter + (p labels).toNat)
    (h : Reachable t) : measure t.shared.requestDuration = t.procs.countP (·.durationLabels.any p) :=
  measure_eq (fun m => measure m.requestDuration) (fun c => c.durationLabels.any p)
    hnil (fun _ => rfl) (fun _ _ _ _ _ => durations_move hbump) h

/-- Both readings of a labelled counter. -/
theorem get_bump_toNat {α : Type} [DecidableEq α] (labels : α) (counter : List (α × Nat)) (a : α) :
    (Counter.get (Counter.bump counter a) labels : Int) =
      Counter.get counter labels + (decide (a = labels)).toNat := by
  rw [Counter.get_bump]
  by_cases ha : a = labels <;> simp [ha]

theorem total_bump_toNat {α : Type} [DecidableEq α] (counter : List (α × Nat)) (a : α) :
    (Counter.total (Counter.bump counter a) : Int) = Counter.total counter + true.toNat := by
  rw [Counter.total_bump]
  rfl

theorem any_eq_decide {α : Type} [DecidableEq α] (o : Option α) (a : α) :
    o.any (fun b => decide (b = a)) = decide (o = some a) := by
  cases o <;> simp

theorem any_true_eq_isSome {α : Type} (o : Option α) : o.any (fun _ => true) = o.isSome := by
  cases o <;> rfl

/-- Each metric is the number of coroutines that have come past the operation on it. -/
theorem accounts_of_reachable (h : Reachable t) : Accounts t := by
  have hactive := active_eq h
  have htotal : Counter.total t.shared.requestsTotal = t.procs.countP (·.requestLabels.isSome) := by
    have hany := requests_eq (fun counter => Counter.total counter) rfl total_bump_toNat h
    simpa only [any_true_eq_isSome, Int.natCast_inj] using hany
  refine ⟨hactive, by omega, ?_, ?_, ?_, htotal, ?_, ?_⟩
  · intro hnone
    have hzero : t.procs.countP Coroutine.inFlight = 0 :=
      List.countP_eq_zero.mpr fun c hc => by simp [hnone c hc]
    omega
  · intro labels
    have hany := requests_eq (fun counter => Counter.get counter labels) rfl (get_bump_toNat labels) h
    simpa only [any_eq_decide, Int.natCast_inj] using hany
  · intro labels
    have hany := durations_eq (fun counter => Counter.get counter labels) rfl (get_bump_toNat labels) h
    simpa only [any_eq_decide, Int.natCast_inj] using hany
  · have hany := durations_eq (fun counter => Counter.total counter) rfl total_bump_toNat h
    simp only [any_true_eq_isSome, Int.natCast_inj] at hany
    rw [hany]
    refine List.countP_congr fun c _ => ?_
    unfold Coroutine.durationLabels Coroutine.finallyRun
    cases c.phase <;> simp
  · intro hsettled
    rw [htotal]
    refine List.countP_congr fun c hc => ?_
    -- outside the `finally` blocks a coroutine that is counted has finished
    have hfinally := hsettled c hc
    unfold Coroutine.inFinally at hfinally
    unfold Coroutine.requestLabels Coroutine.finallyRun
    cases hphase : c.phase <;> simp [hphase] at hfinally ⊢

/-- **The accounting invariant**, at every moment of every interleaving. -/
theorem dispatch_accounting (h : Reachable t) : Accounts t := accounts_of_reachable h

end

/-- Three requests: the second raises while the first waits for its response, and the third is cancelled. -/
def threeRequests : List ServiceEvent :=
  [.spawn "GET", .act 0 .enter, .spawn "POST", .act 1 .enter, .act 1 .raise, .act 0 (.respond 200),
    .act 1 .reraise,
    .spawn "GET", .act 1 (.dec none), .act 2 .enter, .act 0 .leave, .act 1 .count, .act 1 .observe,
      .act 2 .cancel,
    .act 0 (.dec (some "/healthz")), .act 0 .count, .act 0 .observe]

theorem dispatch_accounting_threeRequests :
    ∃ t, Runs.run serviceStep idle threeRequests = some t ∧ Accounts t ∧ t.shared.activeRequests = 1 ∧
      Counter.get t.shared.requestsTotal ⟨"POST", "<unmatched>", "500"⟩ = 1 := by
  refine ⟨_, rfl, dispatch_accounting ⟨threeRequests, rfl⟩, rfl, by decide⟩

end Service
end HostConfig
